import TypedSql.NameMap
import TypedSql.Settings.Override

/-!
# Settings

Settings steer the names and types of a generation pass: type overrides, renamed
identifiers, and settings of single tables and columns. An empty text counts as
not set.
-/

namespace TypedSql

/-- Settings of one column: its field name, its serialization tag and the name
of its enum type. -/
structure ColumnSettings where
  rename : Option String := none
  jsonTag : Option String := none
  enumName : Option String := none
  deriving DecidableEq, Inhabited

/-- Settings of one table: its struct name and the settings of its columns. -/
structure TableSettings where
  structName : Option String := none
  columns : NameMap ColumnSettings := .empty
  deriving DecidableEq, Inhabited

/-- Settings of a generation pass: overrides in the order of their declaration,
renamed identifiers, and settings of tables. -/
structure Settings where
  overrides : List TypeOverride := []
  renames : NameMap String := .empty
  tables : NameMap TableSettings := .empty
  deriving DecidableEq, Inhabited

/-- An optional text, if it is given and not empty. -/
def filled? (value : Option String) : Option String :=
  value.filter fun text => text ≠ ""

namespace TableSettings

def column? (settings : TableSettings) (column : String) : Option ColumnSettings :=
  NameMap.value? settings.columns column

def structName? (settings : TableSettings) : Option String :=
  filled? settings.structName

def rename? (settings : TableSettings) (column : String) : Option String :=
  filled? ((settings.column? column).bind ColumnSettings.rename)

/-- The serialization tag of a column: the one given to it, or else its name. -/
def jsonTag (settings : TableSettings) (column : String) : String :=
  (filled? ((settings.column? column).bind ColumnSettings.jsonTag)).getD column

def enumName? (settings : TableSettings) (column : String) : Option String :=
  filled? ((settings.column? column).bind ColumnSettings.enumName)

end TableSettings

namespace Settings

def withOverride (settings : Settings) (rule : TypeOverride) : Settings :=
  { settings with overrides := settings.overrides ++ [rule] }

def withRename (settings : Settings) (source target : String) : Settings :=
  { settings with renames := NameMap.set settings.renames source target }

def withTable (settings : Settings) (table : String) (entry : TableSettings) : Settings :=
  { settings with tables := NameMap.set settings.tables table entry }

def table? (settings : Settings) (table : String) : Option TableSettings :=
  NameMap.value? settings.tables table

/-- The identifier that replaces another one. -/
def rename? (settings : Settings) (name : String) : Option String :=
  filled? (NameMap.value? settings.renames name)

/-- The target type of the first override that applies to a column. -/
def override? (settings : Settings) (column : Column) : Option String :=
  (settings.overrides.find? fun rule => rule.appliesTo column).map TypeOverride.target

/-- The settings rename identifiers alike and have the same entry of a table.
Their overrides and the entries of other tables may differ. -/
structure NamesAlike (settings other : Settings) (table : String) : Prop where
  sameRenames : settings.renames = other.renames
  sameEntry : settings.table? table = other.table? table

end Settings

end TypedSql
