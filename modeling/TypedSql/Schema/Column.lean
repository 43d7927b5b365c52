import TypedSql.Text.Lowercase

/-!
# Columns

A column belongs to a table or to the result of a query.
-/

namespace TypedSql

/-- A column of a table or of a query result. A computed result column may have
no label, and its table is empty when it is unknown. The literals of an
enumeration stand as they were declared, in quotes. -/
structure Column where
  label : Option String := none
  nativeType : String
  notNull : Bool := false
  table : String := ""
  enumValues : List String := []
  deriving DecidableEq, Inhabited

namespace Column

/-- A nullable column. -/
def named (name nativeType : String) : Column :=
  { label := some name, nativeType }

/-- A nullable result column without a label. -/
def unnamed (nativeType : String) : Column :=
  { nativeType }

/-- A nullable column that takes the given literals. -/
def enumeration (name : String) (values : List String) : Column :=
  { label := some name, nativeType := "enum", enumValues := values }

/-- The column with the condition that it holds no nulls. -/
def required (column : Column) : Column :=
  { column with notNull := true }

def inTable (column : Column) (table : String) : Column :=
  { column with table }

/-- The label, or the empty text. -/
def name (column : Column) : String :=
  column.label.getD ""

def isNullable (column : Column) : Bool :=
  !column.notNull

/-- Whether the native type is `enum` in any case. -/
def isEnum (column : Column) : Bool :=
  Text.sameLatin column.nativeType "enum"

end Column

end TypedSql
