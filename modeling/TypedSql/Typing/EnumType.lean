import TypedSql.Declaration.Basic
import TypedSql.Naming.Identifier
import TypedSql.Schema.Basic

/-!
# Enum types

Each `enum` column of a schema gets an enum type of its own, named by the
settings or after the column and the last word of its table.
-/

namespace TypedSql

/-- The value of the constant for nulls. -/
def nullLiteral : String :=
  "NULL"

/-- The enum type name that the settings give to a column. -/
def Settings.enumName? (settings : Settings) (table column : String) : Option String :=
  (settings.table? table).bind fun entry => entry.enumName? column

/-- The name from which the identifiers of an enum type are built: the last word
of its table and the name of its column. -/
def enumSourceName (table column : String) : String :=
  Naming.lastWord table ++ "_" ++ column

def columnEnumName (settings : Settings) (table column : String) : String :=
  (settings.enumName? table column).getD
    (Naming.identifier settings (enumSourceName table column) ++ "Type")

def enumMemberName (settings : Settings) (table column value : String) : String :=
  match settings.enumName? table column with
  | some typeName => Naming.titleCase typeName ++ Naming.titleCase value
  | none => Naming.memberName (enumSourceName table column) value

/-- The values of an enum column: the one for nulls if the column is nullable,
and the literals. -/
def enumValues (column : Column) : List String :=
  (if column.isNullable then [nullLiteral] else []) ++
    column.enumValues.map Naming.unquoted

def columnEnum (settings : Settings) (table : String) (column : Column) :
    EnumDecl where
  name := columnEnumName settings table column.name
  members := (enumValues column).map fun value =>
    { name := enumMemberName settings table column.name value,
      value,
      typeName := columnEnumName settings table column.name }
  notNull := column.notNull

section

variable {settings other : Settings} {table : String}

theorem columnEnumName_congr (alike : settings.NamesAlike other table) (column : String) :
    columnEnumName settings table column = columnEnumName other table column := by
  simp only [columnEnumName, Settings.enumName?, alike.sameEntry,
    Naming.identifier_congr alike.sameRenames]

theorem columnEnum_congr (alike : settings.NamesAlike other table) (column : Column) :
    columnEnum settings table column = columnEnum other table column := by
  simp only [columnEnum, columnEnumName_congr alike, enumMemberName, Settings.enumName?,
    alike.sameEntry]

end

/-- The enum types of a table in the order of its columns. -/
def tableEnums (settings : Settings) (table : Table) : List EnumDecl :=
  (table.columns.filter Column.isEnum).map (columnEnum settings table.name)

/-- The enum types of a schema, table by table. -/
def schemaEnums (settings : Settings) (schema : Schema) : List EnumDecl :=
  schema.entries.flatMap (tableEnums settings)

end TypedSql
