import TypedSql.Schema.Column

/-!
# Type overrides

An override gives a target type to the columns to which it applies. Of a list of
overrides the first one that applies to a column decides.
-/

namespace TypedSql

/-- A rule that gives a target type to one column of one table, or to all
columns of a native type that are nullable or not. -/
inductive TypeOverride where
  | forColumn (table column target : String)
  | forType (nativeType : String) (nullable : Bool) (target : String)
  deriving DecidableEq

namespace TypeOverride

def target : TypeOverride → String
  | forColumn _ _ target => target
  | forType _ _ target => target

/-- Whether the rule applies to a column. A rule without a column name or
without a native type applies to none. -/
def appliesTo (column : Column) : TypeOverride → Bool
  | forColumn table name _ => name ≠ "" && name = column.name && table = column.table
  | forType nativeType nullable _ =>
      nativeType ≠ "" && Text.sameLatin nativeType column.nativeType &&
        nullable == column.isNullable

end TypeOverride

end TypedSql
