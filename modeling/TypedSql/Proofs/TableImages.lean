import TypedSql.Proofs.StableOrder
import TypedSql.Proofs.TableStructs

/-!
# Structs as images of tables

Each table of a schema has exactly one struct, which shows its columns in their
order. The structs ascend by their names, and those of one name by the names of
their tables, so tables with the same singular keep structs of their own.
-/

namespace TypedSql

/-! ## Fields -/

/-- The serialization tag of a column: a tag that the settings give to it and
that is not empty, or else its name. -/
inductive TagFor (settings : Settings) (table column : String) : String → Prop where
  | configured {entry : TableSettings} {columnEntry : ColumnSettings} {tag : String} :
      settings.table? table = some entry →
      entry.column? column = some columnEntry →
      columnEntry.jsonTag = some tag →
      tag ≠ "" →
      TagFor settings table column tag
  | columnName :
      (∀ entry columnEntry tag, settings.table? table = some entry →
        entry.column? column = some columnEntry →
        columnEntry.jsonTag = some tag → tag = "") →
      TagFor settings table column column

/-- The tag that the settings give to a column, empty or not. -/
def Settings.givenTag? (settings : Settings) (table column : String) : Option String :=
  ((settings.table? table).bind fun entry => entry.column? column).bind ColumnSettings.jsonTag

theorem givenTag?_eq_some_iff {settings : Settings} {table column tag : String} :
    settings.givenTag? table column = some tag ↔
      ∃ entry columnEntry, settings.table? table = some entry ∧
        entry.column? column = some columnEntry ∧ columnEntry.jsonTag = some tag := by
  simp only [Settings.givenTag?, Option.bind_eq_some_iff, exists_and_left]
  constructor
  · rintro ⟨columnEntry, ⟨entry, tableEntry, given⟩, tagged⟩
    exact ⟨entry, tableEntry, columnEntry, given, tagged⟩
  · rintro ⟨entry, tableEntry, columnEntry, given, tagged⟩
    exact ⟨columnEntry, ⟨entry, tableEntry, given⟩, tagged⟩

theorem jsonTag_eq_getD (settings : Settings) (table column : String) :
    settings.jsonTag table column = (filled? (settings.givenTag? table column)).getD column := by
  rw [Settings.jsonTag, Settings.givenTag?]
  cases settings.table? table with
  | none => rfl
  | some entry => rfl

theorem tagFor_jsonTag (settings : Settings) (table column : String) :
    TagFor settings table column (settings.jsonTag table column) := by
  rw [jsonTag_eq_getD]
  cases given : filled? (settings.givenTag? table column) with
  | some tag =>
      rcases Option.filter_eq_some_iff.1 given with ⟨inSettings, filled⟩
      rcases givenTag?_eq_some_iff.1 inSettings with ⟨entry, columnEntry, tableEntry, found, tagged⟩
      exact .configured tableEntry found tagged (of_decide_eq_true filled)
  | none =>
      refine .columnName ?_
      intro entry columnEntry tag tableEntry found tagged
      have inSettings := givenTag?_eq_some_iff.2 ⟨entry, columnEntry, tableEntry, found, tagged⟩
      by_contra filled
      rw [filled?, Option.filter_eq_none_iff] at given
      exact given tag inSettings (decide_eq_true filled)

/-- A field shows a column of a table: it has the field name of the column, the
type that the column gets whatever was found before, and its tag. -/
structure FieldOf (settings : Settings) (table : String) (column : Column) (field : FieldDecl) :
    Prop where
  name_eq : field.name = Naming.fieldName settings table column.name
  typeName_eq : ∀ found, ((resolveType settings column).run found).1 = field.typeName
  tagFor : TagFor settings table column.name field.tag

theorem fieldOf_columnField (settings : Settings) (table : String) (column : Column) :
    FieldOf settings table column
      (columnField settings table column (typeSource settings column).typeName) where
  name_eq := rfl
  typeName_eq := by
    intro found
    rw [yields_resolveType settings column found]
    rfl
  tagFor := tagFor_jsonTag settings table column.name

/-! ## Structs -/

/-- A struct shows a table: it has the struct name of the table, belongs to it
and has one field for each column, in the order of the columns. -/
structure ImageOf (settings : Settings) (table : Table) (decl : StructDecl) : Prop where
  name_eq : decl.name = Naming.tableTypeName settings table.name
  table_eq : decl.table = some table.name
  fields : List.Forall₂ (FieldOf settings table.name) table.columns decl.fields

theorem imageOf_tableStruct (settings : Settings) (table : Table) :
    ImageOf settings table (tableStruct settings table) where
  name_eq := rfl
  table_eq := rfl
  fields := by
    rw [fields_tableStruct, tableFields, List.forall₂_map_right_iff, List.forall₂_same]
    intro column _
    exact fieldOf_columnField settings table.name column

/-- One struct stands before another one by its name, or by the name of its table
if both have one name. -/
def StructDecl.Before (decl other : StructDecl) : Prop :=
  decl.name < other.name ∨
    decl.name = other.name ∧ ∃ table otherTable,
      decl.table = some table ∧ other.table = some otherTable ∧ table < otherTable

theorem pairwise_before_schemaStructs (settings : Settings) (schema : Schema) :
    (schemaStructs settings schema).Pairwise StructDecl.Before := by
  apply pairwise_sortByKey_lex
  rw [List.pairwise_map]
  apply schema.ascending.imp
  intro table other before
  exact ⟨table.name, other.name, rfl, rfl, before⟩

/-- The tables of a schema in the order in which their structs are listed. -/
def tablesByTypeName (settings : Settings) (schema : Schema) : List Table :=
  sortByKey (fun table => Naming.tableTypeName settings table.name) schema.entries

theorem schemaStructs_eq_map (settings : Settings) (schema : Schema) :
    schemaStructs settings schema =
      (tablesByTypeName settings schema).map (tableStruct settings) := by
  rw [schemaStructs, tablesByTypeName, map_sortByKey]
  intro table _
  rfl

theorem tables_schemaStructs_perm (settings : Settings) (schema : Schema) :
    ((schemaStructs settings schema).map StructDecl.table).Perm (schema.names.map some) := by
  rw [schemaStructs_eq_map, List.map_map, Catalog.names, List.map_map]
  exact (sortByKey_perm _ schema.entries).map _

/-- Whatever was found before, the structs of a schema are the images of its
tables, one for each of them. No two of them belong to one table, and they ascend
strictly by struct name and table name. -/
theorem table_structs_are_ordered_images
    (settings : Settings) (schema : Schema) (found : Diagnostics) :
    ∃ structs, (describeTables settings schema).run found =
        (structs, found ++ schemaFindings settings schema) ∧
      (structs.map StructDecl.table).Perm (schema.names.map some) ∧
      (structs.map StructDecl.table).Nodup ∧
      structs.Pairwise StructDecl.Before ∧
      ∃ tables : List Table, tables.Perm schema.entries ∧
        List.Forall₂ (ImageOf settings) tables structs := by
  have onePerTable := tables_schemaStructs_perm settings schema
  refine ⟨schemaStructs settings schema, yields_describeTables settings schema found,
    onePerTable, ?_, pairwise_before_schemaStructs settings schema,
    tablesByTypeName settings schema, sortByKey_perm _ _, ?_⟩
  · rw [onePerTable.nodup_iff]
    exact schema.nodup_names.map (fun _ _ same => Option.some.inj same)
  · rw [schemaStructs_eq_map, List.forall₂_map_right_iff, List.forall₂_same]
    intro table _
    exact imageOf_tableStruct settings table

end TypedSql
