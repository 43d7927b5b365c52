import TypedSql.KeyOrder
import TypedSql.Typing.ColumnType

/-!
# Structs of tables

Each table has a struct with one field for each column. The struct depends on
the names and types of the columns and on the names that the settings give in the
table, and on nothing else.
-/

namespace TypedSql

def Settings.jsonTag (settings : Settings) (table column : String) : String :=
  ((settings.table? table).map fun entry => entry.jsonTag column).getD column

/-- The field of a column in the struct of a table, given its type. -/
def columnField (settings : Settings) (table : String) (column : Column)
    (typeName : String) : FieldDecl :=
  { name := Naming.fieldName settings table column.name,
    typeName,
    tag := settings.jsonTag table column.name }

/-- The struct of a table, given its fields. -/
def structOfFields (settings : Settings) (table : String) (fields : List FieldDecl) :
    StructDecl :=
  { name := Naming.tableTypeName settings table, fields, table := some table }

/-- The struct of a table, its fields in the order of the columns. -/
def describeTable (settings : Settings) (table : Table) : ReportM StructDecl := do
  let fields ← table.columns.mapM fun column => do
    let typeName ← resolveType settings column
    return columnField settings table.name column typeName
  return structOfFields settings table.name fields

/-- The structs of the tables of a schema, sorted by name. They are made in the
order of the tables. -/
def describeTables (settings : Settings) (schema : Schema) :
    ReportM (List StructDecl) := do
  let structs ← schema.entries.mapM (describeTable settings)
  return sortByKey StructDecl.name structs

/-! ## Structs with their types -/

/-- The fields of a table, each one with the type that its column gets. -/
def tableFields (settings : Settings) (table : Table) : List FieldDecl :=
  table.columns.map fun column =>
    columnField settings table.name column (typeSource settings column).typeName

/-- The struct of a table, its fields with the types that the columns get. -/
def tableStruct (settings : Settings) (table : Table) : StructDecl :=
  structOfFields settings table.name (tableFields settings table)

/-- The structs of the tables of a schema, sorted by name. -/
def schemaStructs (settings : Settings) (schema : Schema) : List StructDecl :=
  sortByKey StructDecl.name (schema.entries.map (tableStruct settings))

/-! ## What structs depend on -/

/-- What the struct of a table is made of: its name and its columns with their
types. -/
structure TypedTable where
  name : String
  columns : List TypedColumn
  deriving DecidableEq

def typedTable (settings : Settings) (table : Table) : TypedTable where
  name := table.name
  columns := table.columns.map (typedColumn settings)

section

variable {settings other : Settings}

theorem jsonTag_congr
    {table : String} (alike : settings.NamesAlike other table) (column : String) :
    settings.jsonTag table column = other.jsonTag table column := by
  simp only [Settings.jsonTag, alike.sameEntry]

theorem columnField_congr
    {table : String} {column otherColumn : Column} (alike : settings.NamesAlike other table)
    (sameColumn : typedColumn settings column = typedColumn other otherColumn) :
    columnField settings table column (typeSource settings column).typeName =
      columnField other table otherColumn (typeSource other otherColumn).typeName := by
  obtain ⟨_, sameName, sameType⟩ := TypedColumn.mk.inj sameColumn
  simp only [columnField, sameName, sameType, Naming.fieldName_congr alike, jsonTag_congr alike]

theorem tableStruct_congr
    {table otherTable : Table} (alike : settings.NamesAlike other table.name)
    (sameTable : typedTable settings table = typedTable other otherTable) :
    tableStruct settings table = tableStruct other otherTable := by
  obtain ⟨sameName, sameColumns⟩ := TypedTable.mk.inj sameTable
  have sameFields : tableFields settings table = tableFields other otherTable := by
    rw [tableFields, tableFields, ← sameName]
    exact map_eq_map_of_views (fun _ _ => columnField_congr alike) sameColumns
  rw [tableStruct, tableStruct, structOfFields, structOfFields, sameFields, ← sameName,
    Naming.tableTypeName_congr alike]

theorem schemaStructs_congr
    {schema otherSchema : Schema} (alike : ∀ table, settings.NamesAlike other table)
    (sameTables :
      schema.entries.map (typedTable settings) = otherSchema.entries.map (typedTable other)) :
    schemaStructs settings schema = schemaStructs other otherSchema := by
  have sameStructs :
      schema.entries.map (tableStruct settings) = otherSchema.entries.map (tableStruct other) :=
    map_eq_map_of_views (fun table _ => tableStruct_congr (alike table.name)) sameTables
  rw [schemaStructs, schemaStructs, sameStructs]

end

/-! ## Findings -/

def tableFindings (settings : Settings) (table : Table) : Diagnostics :=
  table.columns.flatMap (typeFindings settings)

def schemaFindings (settings : Settings) (schema : Schema) : Diagnostics :=
  schema.entries.flatMap (tableFindings settings)

theorem yields_describeTable (settings : Settings) (table : Table) :
    Yields (describeTable settings table) (tableStruct settings table)
      (tableFindings settings table) := by
  have field (column : Column) :
      Yields
        (do
          let typeName ← resolveType settings column
          return columnField settings table.name column typeName)
        (columnField settings table.name column (typeSource settings column).typeName)
        (typeFindings settings column) := by
    rw [← List.append_nil (typeFindings settings column)]
    exact (yields_resolveType settings column).bind (Yields.pure _)
  rw [← List.append_nil (tableFindings settings table)]
  exact (Yields.mapM field table.columns).bind (Yields.pure _)

theorem yields_describeTables (settings : Settings) (schema : Schema) :
    Yields (describeTables settings schema) (schemaStructs settings schema)
      (schemaFindings settings schema) := by
  rw [← List.append_nil (schemaFindings settings schema)]
  exact (Yields.mapM (yields_describeTable settings) schema.entries).bind (Yields.pure _)

end TypedSql
