import Mathlib.Data.List.Forall2
import TypedSql.Proofs.ColumnTypes

/-!
# Reuse of table structs for rows

The rows of a query reuse the struct of a table exactly when the result columns
fill the table: all of them come from it, and position by position they agree
with its columns on field names and types. The test for equal fields and the
structs that it searches are built by different functions; the lemmas below
bring both to the same list of names and types.
-/

namespace TypedSql

/-! ## Columns that fill a table -/

/-- The result columns come from a table with a name, there are as many of them
as the table has columns, and they get the same field names and types. -/
structure FillsTable (settings : Settings) (columns : List Column) (table : Table) : Prop where
  tableNamed : table.name ≠ ""
  sameTable : ∀ column ∈ columns, column.table = table.name
  sameLength : columns.length = table.columns.length
  sameFields : ∀ (position : Nat) (inRow : position < columns.length)
    (inTable : position < table.columns.length),
    Naming.fieldName settings table.name
          (Naming.resultName columns[position] position) =
        Naming.fieldName settings table.name table.columns[position].name ∧
      (typeSource settings columns[position]).typeName =
        (typeSource settings table.columns[position]).typeName

instance (settings : Settings) (columns : List Column) (table : Table) :
    Decidable (FillsTable settings columns table) :=
  decidable_of_iff
    (table.name ≠ "" ∧ (∀ column ∈ columns, column.table = table.name) ∧
      columns.length = table.columns.length ∧
      ∀ (position : Nat) (_ : position < columns.length)
        (_ : position < table.columns.length),
        Naming.fieldName settings table.name
              (Naming.resultName columns[position] position) =
            Naming.fieldName settings table.name table.columns[position].name ∧
          (typeSource settings columns[position]).typeName =
            (typeSource settings table.columns[position]).typeName)
    ⟨fun ⟨named, sameTable, sameLength, sameFields⟩ =>
        ⟨named, sameTable, sameLength, sameFields⟩,
      fun fills =>
        ⟨fills.tableNamed, fills.sameTable, fills.sameLength, fills.sameFields⟩⟩

theorem commonTable?_eq_some_iff {columns : List ResultColumn} {table : String} :
    commonTable? columns = some table ↔
      columns ≠ [] ∧ table ≠ "" ∧ ∀ column ∈ columns, column.table = table := by
  cases columns with
  | nil => simp [commonTable?]
  | cons first others =>
      by_cases common :
          first.table ≠ "" ∧ ∀ column ∈ others, column.table = first.table
      · rw [commonTable?, if_pos common, Option.some.injEq]
        constructor
        · intro same
          subst same
          refine ⟨List.cons_ne_nil first others, common.1, ?_⟩
          intro column member
          rcases List.mem_cons.1 member with rfl | later
          · rfl
          · exact common.2 column later
        · intro conditions
          obtain ⟨_, _, sameTable⟩ := conditions
          exact sameTable first List.mem_cons_self
      · rw [commonTable?, if_neg common]
        constructor
        · intro impossible
          exact nomatch impossible
        · intro conditions
          obtain ⟨_, named, sameTable⟩ := conditions
          have firstTable := sameTable first List.mem_cons_self
          refine absurd ⟨firstTable ▸ named, ?_⟩ common
          intro column member
          rw [firstTable]
          exact sameTable column (List.mem_cons_of_mem first member)

theorem commonTable?_resultColumns_iff
    {settings : Settings} {query : Query} {table : String} :
    commonTable? (resultColumns settings query) = some table ↔
      query.columns ≠ [] ∧ table ≠ "" ∧ ∀ column ∈ query.columns, column.table = table := by
  have sameTables :
      (∀ column ∈ resultColumns settings query, column.table = table) ↔
        ∀ column ∈ query.columns, column.table = table := by
    have mapped :
        (∀ name ∈ (resultColumns settings query).map ResultColumn.table, name = table) ↔
          ∀ name ∈ query.columns.map Column.table, name = table := by
      rw [tables_resultColumns]
    simpa only [List.forall_mem_map] using mapped
  have sameEmptiness : resultColumns settings query ≠ [] ↔ query.columns ≠ [] := by
    rw [← List.length_pos_iff, ← List.length_pos_iff, length_resultColumns]
  rw [commonTable?_eq_some_iff, sameEmptiness, sameTables]

/-! ## Fields side by side -/

theorem shapes_tableFields (settings : Settings) (table : Table) :
    (tableFields settings table).map FieldDecl.shape =
      table.columns.map fun column =>
        (Naming.fieldName settings table.name column.name,
          (typeSource settings column).typeName) := by
  rw [tableFields, List.map_map]
  rfl

theorem shapes_columnFields (settings : Settings) (table : String) (query : Query) :
    (columnFields settings table (resultColumns settings query)).map FieldDecl.shape =
      query.columns.zipIdx.map fun (column, position) =>
        (Naming.fieldName settings table (Naming.resultName column position),
          (typeSource settings column).typeName) := by
  rw [columnFields, resultColumns, List.map_map, List.map_map]
  rfl

/-- The equality test of the search compares exactly what `FillsTable` lists. -/
theorem shapes_eq_iff (settings : Settings) (table : Table) (query : Query) :
    (tableFields settings table).map FieldDecl.shape =
        (columnFields settings table.name (resultColumns settings query)).map
          FieldDecl.shape ↔
      query.columns.length = table.columns.length ∧
        ∀ (position : Nat) (_ : position < query.columns.length)
          (_ : position < table.columns.length),
          Naming.fieldName settings table.name
                (Naming.resultName query.columns[position] position) =
              Naming.fieldName settings table.name table.columns[position].name ∧
            (typeSource settings query.columns[position]).typeName =
              (typeSource settings table.columns[position]).typeName := by
  rw [shapes_tableFields, shapes_columnFields, eq_comm, List.ext_getElem_iff]
  simp only [List.length_map, List.length_zipIdx, List.getElem_map, List.getElem_zipIdx,
    Nat.zero_add, Prod.mk.injEq]

theorem sameFields_tableStruct_iff
    {settings : Settings} {table : Table} {query : Query} {wanted : String}
    (named : wanted ≠ "") (sameTable : ∀ column ∈ query.columns, column.table = wanted) :
    (tableStruct settings table).sameFields
        { name := "", fields := columnFields settings wanted (resultColumns settings query),
          table := some wanted } = true ↔
      table.name = wanted ∧ FillsTable settings query.columns table := by
  rw [sameFields_iff, table_tableStruct, Option.some.injEq, fields_tableStruct]
  constructor
  · intro equalFields
    obtain ⟨rfl, sameShapes⟩ := equalFields
    obtain ⟨sameLength, sameFields⟩ := (shapes_eq_iff settings table query).1 sameShapes
    exact ⟨rfl, named, sameTable, sameLength, sameFields⟩
  · intro filled
    obtain ⟨rfl, fills⟩ := filled
    exact ⟨rfl, (shapes_eq_iff settings table query).2 ⟨fills.sameLength, fills.sameFields⟩⟩

/-! ## The search for a struct -/

/-- The search finds the struct of the table that the result columns fill. -/
theorem reusedStruct?_eq_some_iff
    {settings : Settings} {schema : Schema} {query : Query} {decl : StructDecl}
    (nonempty : query.columns ≠ []) :
    reusedStruct? settings (schemaStructs settings schema) (resultColumns settings query) =
        some decl ↔
      ∃ table ∈ schema.entries, FillsTable settings query.columns table ∧
        tableStruct settings table = decl := by
  rw [reusedStruct?, Option.bind_eq_some_iff]
  constructor
  · intro searched
    obtain ⟨wanted, common, found⟩ := searched
    obtain ⟨_, named, sameTable⟩ := commonTable?_resultColumns_iff.1 common
    obtain ⟨table, member, rfl⟩ := mem_schemaStructs_iff.1 (List.mem_of_find?_eq_some found)
    have same := List.find?_some found
    have fills := ((sameFields_tableStruct_iff named sameTable).1 same).2
    exact ⟨table, member, fills, rfl⟩
  · intro filled
    obtain ⟨table, member, fills, rfl⟩ := filled
    refine ⟨table.name, commonTable?_resultColumns_iff.2
      ⟨nonempty, fills.tableNamed, fills.sameTable⟩, ?_⟩
    apply find?_eq_some_of_unique
    · exact mem_schemaStructs_iff.2 ⟨table, member, rfl⟩
    · exact (sameFields_tableStruct_iff fills.tableNamed fills.sameTable).2 ⟨rfl, fills⟩
    · intro other otherMember same
      obtain ⟨otherTable, otherIn, rfl⟩ := mem_schemaStructs_iff.1 otherMember
      have sameName :=
        ((sameFields_tableStruct_iff fills.tableNamed fills.sameTable).1 same).1
      rw [Catalog.eq_of_mem_of_name_eq otherIn member sameName]

theorem reusedStruct?_eq_none_iff
    {settings : Settings} {schema : Schema} {query : Query}
    (nonempty : query.columns ≠ []) :
    reusedStruct? settings (schemaStructs settings schema) (resultColumns settings query) =
        none ↔
      ¬ ∃ table ∈ schema.entries, FillsTable settings query.columns table := by
  rw [Option.eq_none_iff_forall_ne_some]
  constructor
  · intro missing filled
    obtain ⟨table, member, fills⟩ := filled
    exact missing (tableStruct settings table)
      ((reusedStruct?_eq_some_iff nonempty).2 ⟨table, member, fills, rfl⟩)
  · intro missing decl found
    obtain ⟨table, member, fills, _⟩ := (reusedStruct?_eq_some_iff nonempty).1 found
    exact missing ⟨table, member, fills⟩

/-! ## Selecting a whole table -/

/-- A result column shows a column of a table: it has the same table, name,
native type and nullability. -/
def Column.Shows (shown source : Column) : Prop :=
  shown.table = source.table ∧ shown.name = source.name ∧
    shown.nativeType = source.nativeType ∧ shown.notNull = source.notNull

theorem Column.Shows.typeSource_eq
    {shown source : Column} (shows : shown.Shows source) (settings : Settings) :
    typeSource settings shown = typeSource settings source := by
  obtain ⟨sameTable, sameName, sameType, sameNulls⟩ := shows
  have sameRules : ∀ rule : TypeOverride, rule.appliesTo shown = rule.appliesTo source := by
    intro rule
    cases rule with
    | forColumn table name target =>
        simp only [TypeOverride.appliesTo, sameName, sameTable]
    | forType nativeType nullable target =>
        simp only [TypeOverride.appliesTo, sameType, Column.isNullable, sameNulls]
  have sameOverride : settings.override? shown = settings.override? source := by
    simp only [Settings.override?, sameRules]
  have sameNative : nativeTypeSource settings shown = nativeTypeSource settings source := by
    simp only [nativeTypeSource, Column.isNullable, sameTable, sameName, sameType, sameNulls]
  simp only [typeSource, sameOverride, sameNative]

theorem fillsTable_of_shows
    {settings : Settings} {columns : List Column} {table : Table}
    (stamped : table.Stamped) (tableNamed : table.name ≠ "")
    (columnsNamed : ∀ column ∈ table.columns, column.name ≠ "")
    (allShown : List.Forall₂ Column.Shows columns table.columns) :
    FillsTable settings columns table where
  tableNamed := tableNamed
  sameTable := by
    intro column member
    obtain ⟨position, inRow, rfl⟩ := List.mem_iff_getElem.1 member
    have inTable : position < table.columns.length := allShown.length_eq ▸ inRow
    have shows := List.Forall₂.get allShown inRow inTable
    exact shows.1.trans (stamped _ (List.getElem_mem inTable))
  sameLength := allShown.length_eq
  sameFields := by
    intro position inRow inTable
    have shows : (columns[position]).Shows table.columns[position] :=
      List.Forall₂.get allShown inRow inTable
    have named : columns[position].name ≠ "" := by
      rw [shows.2.1]
      exact columnsNamed _ (List.getElem_mem inTable)
    rw [Naming.resultName, if_neg named, shows.2.1, shows.typeSource_eq settings]
    exact ⟨rfl, rfl⟩

/-! ## Rows of a pass -/

/-- The rows of a method reuse the struct of a table, which is the only one of
this table. -/
def QueryMethod.ReusesStruct
    (method : QueryMethod) (structs : List StructDecl) (table : String) : Prop :=
  ∃ decl, method.ret = .struct rowVariable decl false ∧
    (structs.filter fun other => other.table = some table) = [decl]

/-- Rows of several columns reuse the struct of a table exactly when the columns
fill the table; otherwise they get a new struct. Selecting all columns of a
table always reuses its struct. -/
theorem rows_reuse_struct_iff_fillsTable
    {settings : Settings} {schema : Schema} {slots : List (Option Query)}
    {output : Outcome} {query : Query}
    (stamped : schema.Stamped)
    (generated : generate settings schema slots = .ok output)
    (inSlots : some query ∈ slots) (bound : query.isBound = true)
    (several : 2 ≤ query.columns.length) :
    ∃ method ∈ output.queries,
      Yields (bindQuery settings output.structs query) (some method)
        (queryFindings settings query) ∧
      ((∃ name decl, method.ret = .struct name decl false) ↔
        ∃ table ∈ schema.entries, FillsTable settings query.columns table) ∧
      (∀ table ∈ schema.entries, FillsTable settings query.columns table →
        method.ReusesStruct output.structs table.name) ∧
      ((¬ ∃ table ∈ schema.entries, FillsTable settings query.columns table) →
        ∃ decl, method.ret = .struct rowVariable decl true ∧ decl.table = none ∧
          decl ∉ output.structs) ∧
      (∀ table ∈ schema.entries, table.name ≠ "" →
        (∀ column ∈ table.columns, column.name ≠ "") →
        List.Forall₂ Column.Shows query.columns table.columns →
        method.ReusesStruct output.structs table.name) := by
  obtain ⟨method, member, yields, ret⟩ := exists_method_of_generate generated inSlots bound
  have structs := structs_of_generate generated
  have nonempty : query.columns ≠ [] := by
    intro empty
    rw [empty] at several
    exact absurd several (by decide)
  rw [retValue_of_two_le settings output.structs query
    ((length_resultColumns settings query).symm ▸ several), structs] at ret
  have reuses : ∀ table ∈ schema.entries, FillsTable settings query.columns table →
      method.ReusesStruct output.structs table.name := by
    intro table inSchema fills
    have found := (reusedStruct?_eq_some_iff nonempty).2 ⟨table, inSchema, fills, rfl⟩
    rw [found] at ret
    rw [structs]
    exact ⟨tableStruct settings table, ret, filter_schemaStructs_of_mem settings inSchema⟩
  have introduces : (¬ ∃ table ∈ schema.entries, FillsTable settings query.columns table) →
      method.ret =
        .struct rowVariable (rowStruct settings query (resultColumns settings query)) true := by
    intro missing
    rw [(reusedStruct?_eq_none_iff nonempty).2 missing] at ret
    exact ret
  refine ⟨method, member, yields, ⟨?_, ?_⟩, reuses, ?_, ?_⟩
  · intro reuse
    obtain ⟨_, decl, reused⟩ := reuse
    by_contra missing
    rw [introduces missing] at reused
    injection reused with _ _ emitted
    exact absurd emitted (by decide)
  · intro filled
    obtain ⟨table, inSchema, fills⟩ := filled
    obtain ⟨decl, reused, _⟩ := reuses table inSchema fills
    exact ⟨rowVariable, decl, reused⟩
  · intro missing
    refine ⟨_, introduces missing, rfl, ?_⟩
    intro impossible
    rw [structs] at impossible
    obtain ⟨table, _, same⟩ := mem_schemaStructs_iff.1 impossible
    have sameTable := congrArg StructDecl.table same
    exact nomatch sameTable
  · intro table inSchema tableNamed columnsNamed allShown
    exact reuses table inSchema
      (fillsTable_of_shows (stamped table inSchema) tableNamed columnsNamed allShown)

def deviceTable : Table :=
  { name := "app_devices",
    columns :=
      [{ label := some "id", nativeType := "int", notNull := true, table := "app_devices" },
       { label := some "label", nativeType := "VARCHAR", table := "app_devices" },
       { label := some "status", nativeType := "Enum", table := "app_devices",
         enumValues := ["'on'", "'off'"] }] }

def accountTable : Table :=
  { name := "accounts",
    columns := [{ label := some "id", nativeType := "int", table := "accounts" }] }

def deviceSchema : Schema :=
  Catalog.ofList [deviceTable, accountTable]

/-- The column `label` of the devices has the field `Title`. -/
def deviceSettings : Settings :=
  Settings.withTable {} "app_devices"
    { columns := NameMap.set .empty "label" { rename := some "Title" } }

/-- The second column is selected under another name of the same field. -/
def listDevices : Query :=
  { name := "ListDevices", command := some .many,
    sql := "SELECT id, label AS title, status FROM app_devices",
    columns :=
      [{ label := some "id", nativeType := "int", notNull := true, table := "app_devices" },
       { label := some "title", nativeType := "varchar", table := "app_devices" },
       { label := some "status", nativeType := "enum", notNull := true,
         table := "app_devices" }] }

theorem stamped_deviceSchema : deviceSchema.Stamped :=
  Schema.stamped_ofList (by decide)

theorem listDevices_reuses_struct :
    deviceSchema.Stamped ∧
      generate deviceSettings deviceSchema [some listDevices] =
        .ok (passOutcome deviceSettings deviceSchema [listDevices]) ∧
      listDevices.isBound = true ∧ 2 ≤ listDevices.columns.length ∧
      FillsTable deviceSettings listDevices.columns deviceTable ∧
      ∃ method ∈ (passOutcome deviceSettings deviceSchema [listDevices]).queries,
        method.ReusesStruct (schemaStructs deviceSettings deviceSchema) "app_devices" := by
  have generated := generate_filled deviceSettings deviceSchema [listDevices]
  have bound : listDevices.isBound = true := by decide
  have several : 2 ≤ listDevices.columns.length := by decide
  have fills : FillsTable deviceSettings listDevices.columns deviceTable := by decide
  have inSchema : deviceTable ∈ deviceSchema.entries := by decide
  obtain ⟨method, member, _, _, reuses, _⟩ :=
    rows_reuse_struct_iff_fillsTable stamped_deviceSchema generated List.mem_cons_self
      bound several
  exact ⟨stamped_deviceSchema, generated, bound, several, fills, method, member,
    reuses deviceTable inSchema fills⟩

end TypedSql
