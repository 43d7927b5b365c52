import TypedSql.Text.Lowercase

/-!
# Native types

MySQL types fall into categories, and each category has a target type for
columns without nulls and one for nullable columns. The case of a type name does
not matter.
-/

namespace TypedSql

inductive NativeType where
  | text
  | integer
  | binary
  | float
  | enumeration
  | temporal
  | boolean
  | unknown (name : String)
  deriving DecidableEq

namespace NativeType

/-- The categories of type names in lowercase. -/
def categories : List (String × NativeType) :=
  [("varchar", text), ("text", text), ("char", text), ("tinytext", text), ("mediumtext", text),
   ("longtext", text),
   ("int", integer), ("integer", integer), ("smallint", integer), ("mediumint", integer),
   ("bigint", integer), ("year", integer),
   ("blob", binary), ("binary", binary), ("varbinary", binary), ("tinyblob", binary),
   ("mediumblob", binary), ("longblob", binary),
   ("float", float),
   ("enum", enumeration),
   ("date", temporal), ("timestamp", temporal), ("datetime", temporal), ("time", temporal),
   ("boolean", boolean), ("bool", boolean), ("tinyint", boolean)]

/-- Whether a type name in lowercase starts with `decimal`, with or without
precision. -/
def isDecimal (name : String) : Bool :=
  "decimal".toList.isPrefixOf name.toList

def ofName (name : String) : NativeType :=
  match categories.lookup (Text.lowerLatin name) with
  | some category => category
  | none => if isDecimal (Text.lowerLatin name) then float else unknown name

/-- The target types of a category without and with nulls. Enumerations are
named after their columns, and unknown types have none. -/
def targets? : NativeType → Option (String × String)
  | text => some ("string", "NullString")
  | integer => some ("int", "NullInt64")
  | binary => some ("[]byte", "[]byte")
  | float => some ("float64", "NullFloat64")
  | temporal => some ("time.Time", "NullTime")
  | boolean => some ("bool", "NullBool")
  | enumeration => none
  | unknown _ => none

/-- The target type of a category for columns that are nullable or not. -/
def target? (category : NativeType) (nullable : Bool) : Option String :=
  category.targets?.map fun targets => if nullable then targets.2 else targets.1

end NativeType

end TypedSql
