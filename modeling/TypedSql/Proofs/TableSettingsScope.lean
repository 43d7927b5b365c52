import TypedSql.Proofs.TableAddition
import TypedSql.Proofs.UnknownTypes

/-!
# The scope of table settings

The settings of a table bear on its own struct, on its own enum types and on the
methods that return columns of it. They change nothing that a pass reports, no
parameters, no SQL text and nothing that is made of other tables, although the
structs among which a reused one is searched may come in another order.
-/

namespace TypedSql

/-- Settings that differ at most in the entry of one table. -/
structure Settings.AgreeExcept (settings other : Settings) (table : String) : Prop where
  sameOverrides : settings.overrides = other.overrides
  sameRenames : settings.renames = other.renames
  sameTables : ∀ name, name ≠ table → settings.table? name = other.table? name

theorem Settings.AgreeExcept.symm
    {settings other : Settings} {table : String} (agree : settings.AgreeExcept other table) :
    other.AgreeExcept settings table where
  sameOverrides := agree.sameOverrides.symm
  sameRenames := agree.sameRenames.symm
  sameTables := fun name different => (agree.sameTables name different).symm

theorem Settings.AgreeExcept.namesAlike
    {settings other : Settings} {changed table : String}
    (agree : settings.AgreeExcept other changed) (different : table ≠ changed) :
    settings.NamesAlike other table where
  sameRenames := agree.sameRenames
  sameEntry := agree.sameTables table different

section

variable {settings other : Settings} {changed : String}

/-! ## Types -/

theorem override?_of_agree (agree : settings.AgreeExcept other changed) (column : Column) :
    settings.override? column = other.override? column := by
  simp only [Settings.override?, agree.sameOverrides]

theorem typeSource_of_agree
    (agree : settings.AgreeExcept other changed)
    {column : Column} (different : column.table ≠ changed) :
    typeSource settings column = typeSource other column :=
  typeSource_congr (override?_of_agree agree column) (agree.namesAlike different)

theorem typedColumns_of_agree
    (agree : settings.AgreeExcept other changed)
    {columns : List Column} (foreign : ∀ column ∈ columns, column.table ≠ changed) :
    columns.map (typedColumn settings) = columns.map (typedColumn other) := by
  apply List.map_congr_left
  intro column member
  rw [typedColumn, typedColumn, typeSource_of_agree agree (foreign column member)]

/-! ## Findings -/

/-- Whether a column is reported does not depend on the settings of any table. -/
theorem typeFindings_of_agree (agree : settings.AgreeExcept other changed) (column : Column) :
    typeFindings settings column = typeFindings other column := by
  have sameUnresolved : Unresolved settings column ↔ Unresolved other column := by
    simp only [Unresolved, Settings.Overrides, agree.sameOverrides]
  by_cases unresolved : Unresolved settings column
  · rw [typeFindings_of_unresolved unresolved,
      typeFindings_of_unresolved (sameUnresolved.1 unresolved)]
  · have resolved : ¬ Unresolved other column := fun found =>
      unresolved (sameUnresolved.2 found)
    rw [typeFindings_of_resolved unresolved, typeFindings_of_resolved resolved]

theorem diagnostics_of_agree
    (agree : settings.AgreeExcept other changed) (schema : Schema) (queries : List Query) :
    (passOutcome settings schema queries).diagnostics =
      (passOutcome other schema queries).diagnostics := by
  have sameFindings : typeFindings settings = typeFindings other :=
    funext (typeFindings_of_agree agree)
  have sameTableFindings : tableFindings settings = tableFindings other :=
    funext fun table => by simp only [tableFindings, sameFindings]
  have sameQueryFindings : queryFindings settings = queryFindings other :=
    funext fun query => by simp only [queryFindings, sameFindings]
  simp only [passOutcome, schemaFindings, sameTableFindings, sameQueryFindings]

/-! ## Structs and enum types -/

theorem tableStruct_of_agree
    (agree : settings.AgreeExcept other changed)
    {table : Table} (stamped : table.Stamped) (different : table.name ≠ changed) :
    tableStruct settings table = tableStruct other table := by
  have foreign : ∀ column ∈ table.columns, column.table ≠ changed := by
    intro column member
    rw [stamped column member]
    exact different
  apply tableStruct_congr (agree.namesAlike different)
  rw [typedTable, typedTable, typedColumns_of_agree agree foreign]

theorem filter_schemaStructs_of_agree
    (agree : settings.AgreeExcept other changed) {schema : Schema} (stamped : schema.Stamped) :
    ((schemaStructs settings schema).filter fun decl => decl.table ≠ some changed) =
      (schemaStructs other schema).filter fun decl => decl.table ≠ some changed := by
  have unsorted :
      ((schema.entries.map (tableStruct settings)).filter
          fun decl => decl.table ≠ some changed) =
        (schema.entries.map (tableStruct other)).filter
          fun decl => decl.table ≠ some changed := by
    rw [List.filter_map, List.filter_map]
    apply List.map_congr_left
    intro table member
    obtain ⟨inSchema, kept⟩ := List.mem_filter.1 member
    have different : table.name ≠ changed := by simpa using kept
    exact tableStruct_of_agree agree (stamped table inSchema) different
  rw [schemaStructs, schemaStructs, filter_sortByKey_comm, filter_sortByKey_comm, unsorted]

theorem tableEnums_of_agree
    (agree : settings.AgreeExcept other changed)
    {table : Table} (different : table.name ≠ changed) :
    tableEnums settings table = tableEnums other table :=
  List.map_congr_left fun column _ => columnEnum_congr (agree.namesAlike different) column

theorem exists_split_schemaEnums
    (agree : settings.AgreeExcept other changed) (schema : Schema) :
    ∃ before after,
      schemaEnums settings schema =
        before ++ (schema.find? changed).toList.flatMap (tableEnums settings) ++ after ∧
      schemaEnums other schema =
        before ++ (schema.find? changed).toList.flatMap (tableEnums other) ++ after ∧
      before ++ after =
        (schema.entries.filter fun table => table.name ≠ changed).flatMap
          (tableEnums settings) := by
  obtain ⟨before, after, split, others⟩ := schema.exists_split_find? changed
  have sameEnums : ∀ table ∈ before ++ after,
      tableEnums settings table = tableEnums other table := by
    intro table member
    rw [others] at member
    have different : table.name ≠ changed := by simpa using (List.mem_filter.1 member).2
    exact tableEnums_of_agree agree different
  have sameBefore : before.flatMap (tableEnums settings) = before.flatMap (tableEnums other) :=
    List.flatMap_congr fun table member =>
      sameEnums table (List.mem_append_left after member)
  have sameAfter : after.flatMap (tableEnums settings) = after.flatMap (tableEnums other) :=
    List.flatMap_congr fun table member =>
      sameEnums table (List.mem_append_right before member)
  refine ⟨before.flatMap (tableEnums settings), after.flatMap (tableEnums settings), ?_, ?_, ?_⟩
  · rw [schemaEnums, split, List.flatMap_append, List.flatMap_append]
  · rw [schemaEnums, split, List.flatMap_append, List.flatMap_append, sameBefore, sameAfter]
  · rw [← others, List.flatMap_append]

/-! ## Methods -/

/-- Result columns fill a table under both settings or under none. -/
theorem FillsTable.of_agree
    {columns : List Column} {table : Table} (agree : settings.AgreeExcept other changed)
    (stamped : table.Stamped) (different : table.name ≠ changed)
    (fills : FillsTable settings columns table) :
    FillsTable other columns table where
  tableNamed := fills.tableNamed
  sameTable := fills.sameTable
  sameLength := fills.sameLength
  sameFields := by
    intro position inRow inTable
    have rowDifferent : columns[position].table ≠ changed := by
      rw [fills.sameTable _ (List.getElem_mem inRow)]
      exact different
    have tableDifferent : table.columns[position].table ≠ changed := by
      rw [stamped _ (List.getElem_mem inTable)]
      exact different
    have alike := agree.namesAlike different
    rw [← Naming.fieldName_congr alike, ← Naming.fieldName_congr alike,
      ← typeSource_of_agree agree rowDifferent, ← typeSource_of_agree agree tableDifferent]
    exact fills.sameFields position inRow inTable

section

variable {schema : Schema} {query : Query}

theorem resultColumns_of_agree
    (agree : settings.AgreeExcept other changed)
    (foreign : ∀ column ∈ query.columns, column.table ≠ changed) :
    resultColumns settings query = resultColumns other query :=
  resultColumns_congr (typedColumns_of_agree agree foreign)

theorem exists_filled_of_agree
    (agree : settings.AgreeExcept other changed) (stamped : schema.Stamped)
    (nonempty : query.columns ≠ [])
    (foreign : ∀ column ∈ query.columns, column.table ≠ changed) {decl : StructDecl}
    (filled : ∃ table ∈ schema.entries, FillsTable settings query.columns table ∧
      tableStruct settings table = decl) :
    ∃ table ∈ schema.entries, FillsTable other query.columns table ∧
      tableStruct other table = decl := by
  obtain ⟨table, inSchema, fills, rfl⟩ := filled
  obtain ⟨column, inQuery⟩ := List.exists_mem_of_ne_nil query.columns nonempty
  have different : table.name ≠ changed := by
    rw [← fills.sameTable column inQuery]
    exact foreign column inQuery
  have tableStamped := stamped table inSchema
  exact ⟨table, inSchema, fills.of_agree agree tableStamped different,
    (tableStruct_of_agree agree tableStamped different).symm⟩

/-- The structs may be sorted differently, but columns of other tables still find
the same one. -/
theorem reusedStruct?_of_agree
    (agree : settings.AgreeExcept other changed) (stamped : schema.Stamped)
    (nonempty : query.columns ≠ [])
    (foreign : ∀ column ∈ query.columns, column.table ≠ changed) :
    reusedStruct? settings (schemaStructs settings schema) (resultColumns settings query) =
      reusedStruct? other (schemaStructs other schema) (resultColumns other query) := by
  apply Option.ext
  intro decl
  rw [reusedStruct?_eq_some_iff nonempty, reusedStruct?_eq_some_iff nonempty]
  constructor
  · exact exists_filled_of_agree agree stamped nonempty foreign
  · exact exists_filled_of_agree agree.symm stamped nonempty foreign

theorem retValue_of_agree
    (agree : settings.AgreeExcept other changed) (stamped : schema.Stamped)
    (foreign : ∀ column ∈ query.columns, column.table ≠ changed) :
    retValue settings (schemaStructs settings schema) query (resultColumns settings query) =
      retValue other (schemaStructs other schema) query (resultColumns other query) := by
  have sameResults := resultColumns_of_agree agree foreign
  by_cases several : 2 ≤ query.columns.length
  · have nonempty : query.columns ≠ [] :=
      List.ne_nil_of_length_pos (Nat.lt_of_lt_of_le Nat.zero_lt_two several)
    have severalResults : 2 ≤ (resultColumns settings query).length := by
      rw [length_resultColumns]
      exact several
    have sameReuse := reusedStruct?_of_agree agree stamped nonempty foreign
    have sameRow : rowStruct settings query (resultColumns settings query) =
        rowStruct other query (resultColumns other query) := by
      rw [sameResults, rowStruct_congr agree.sameRenames]
    rw [retValue_of_two_le settings _ query severalResults,
      retValue_of_two_le other _ query (sameResults ▸ severalResults), sameReuse, sameRow]
  · have few : (resultColumns settings query).length < 2 := by
      rw [length_resultColumns]
      exact Nat.lt_of_not_le several
    rw [← sameResults]
    exact retValue_of_lt_two settings other _ _ query few

/-- Parameters and SQL text do not depend on the settings of tables. -/
theorem describeQuery_agreesUpToRet
    (agree : settings.AgreeExcept other changed) (structs otherStructs : List StructDecl)
    (query : Query) (command : Command) (columns otherColumns : List ResultColumn) :
    (describeQuery settings structs query command columns).AgreesUpToRet
      (describeQuery other otherStructs query command otherColumns) := by
  simp only [QueryMethod.AgreesUpToRet, describeQuery, argValue_congr agree.sameRenames,
    expandSql_congr agree.sameRenames]

theorem method_of_agree
    (agree : settings.AgreeExcept other changed) (stamped : schema.Stamped)
    {method otherMethod : QueryMethod}
    (binds : BindsTo settings (schemaStructs settings schema) query method)
    (otherBinds : BindsTo other (schemaStructs other schema) query otherMethod) :
    method.AgreesUpToRet otherMethod ∧
      ((∀ column ∈ query.columns, column.table ≠ changed) → otherMethod = method) := by
  obtain ⟨_, command, known, rfl⟩ :=
    boundQuery?_eq_some_iff.1 (boundQuery?_of_bindsTo binds)
  obtain ⟨_, otherCommand, otherKnown, rfl⟩ :=
    boundQuery?_eq_some_iff.1 (boundQuery?_of_bindsTo otherBinds)
  rw [known, Option.some.injEq] at otherKnown
  subst otherKnown
  have upToRet := describeQuery_agreesUpToRet agree (schemaStructs settings schema)
    (schemaStructs other schema) query command (resultColumns settings query)
    (resultColumns other query)
  refine ⟨upToRet, ?_⟩
  intro foreign
  have sameRet := retValue_of_agree agree stamped foreign
  rw [upToRet]
  simp only [describeQuery, sameRet]

end

end

/-- Settings that differ in the entry of one table lead to the same findings, the
same structs and enum types of other tables, and the same methods up to what is
returned by queries with columns of this table. -/
theorem table_settings_are_local
    {settings other : Settings} {schema : Schema} {changed : String} (queries : List Query)
    (stamped : schema.Stamped) (agree : settings.AgreeExcept other changed) :
    ∃ output otherOutput,
      generate settings schema (queries.map some) = .ok output ∧
      generate other schema (queries.map some) = .ok otherOutput ∧
      output.diagnostics = otherOutput.diagnostics ∧
      (output.structs.filter fun decl => decl.table ≠ some changed) =
        (otherOutput.structs.filter fun decl => decl.table ≠ some changed) ∧
      (∃ before after,
        output.enums =
          before ++ (schema.find? changed).toList.flatMap (tableEnums settings) ++ after ∧
        otherOutput.enums =
          before ++ (schema.find? changed).toList.flatMap (tableEnums other) ++ after ∧
        before ++ after =
          (schema.entries.filter fun table => table.name ≠ changed).flatMap
            (tableEnums settings)) ∧
      List.Forall₂
        (fun method otherMethod => ∃ query ∈ queries,
          BindsTo settings output.structs query method ∧
          BindsTo other otherOutput.structs query otherMethod ∧
          method.AgreesUpToRet otherMethod ∧
          ((∀ column ∈ query.columns, column.table ≠ changed) → otherMethod = method))
        output.queries otherOutput.queries := by
  have methods := forall₂_methods settings other (schemaStructs settings schema)
    (schemaStructs other schema) queries
  refine ⟨passOutcome settings schema queries, passOutcome other schema queries,
    generate_filled settings schema queries, generate_filled other schema queries,
    diagnostics_of_agree agree schema queries,
    filter_schemaStructs_of_agree agree stamped,
    exists_split_schemaEnums agree schema, ?_⟩
  refine methods.imp ?_
  intro method otherMethod common
  obtain ⟨query, member, binds, otherBinds⟩ := common
  exact ⟨query, member, binds, otherBinds, method_of_agree agree stamped binds otherBinds⟩

def teamTable : Table :=
  { name := "teams",
    columns :=
      [{ label := some "id", nativeType := "int", notNull := true, table := "teams" },
       { label := some "kind", nativeType := "enum", table := "teams",
         enumValues := ["'own'", "'guest'"] }] }

def listTeams : Query :=
  { name := "ListTeams", command := some .many, sql := "SELECT id, kind FROM teams",
    columns := teamTable.columns }

/-- The struct of the devices is called `Zebra` and stands behind the one of the
teams. -/
def zebraSettings : Settings :=
  Settings.withTable {} "app_devices" { structName := some "Zebra" }

theorem devices_settings_do_not_touch_teams :
    Schema.Stamped (Catalog.ofList [deviceTable, teamTable]) ∧
      deviceSettings.AgreeExcept zebraSettings "app_devices" ∧
      (∀ column ∈ listTeams.columns, column.table ≠ "app_devices") ∧
      ∃ output other,
        generate deviceSettings (Catalog.ofList [deviceTable, teamTable])
            [some listDevices, some listTeams] = .ok output ∧
          generate zebraSettings (Catalog.ofList [deviceTable, teamTable])
            [some listDevices, some listTeams] = .ok other ∧
          output.diagnostics = other.diagnostics ∧
          (output.structs.filter fun decl => decl.table ≠ some "app_devices") =
            (other.structs.filter fun decl => decl.table ≠ some "app_devices") ∧
          List.Forall₂ QueryMethod.AgreesUpToRet output.queries other.queries := by
  have stamped : Schema.Stamped (Catalog.ofList [deviceTable, teamTable]) :=
    Schema.stamped_ofList (by decide)
  have agree : deviceSettings.AgreeExcept zebraSettings "app_devices" := by
    refine ⟨rfl, rfl, ?_⟩
    intro name different
    exact (NameMap.value?_set_of_ne _ different _).trans
      (NameMap.value?_set_of_ne _ different _).symm
  have foreign : ∀ column ∈ listTeams.columns, column.table ≠ "app_devices" := by decide
  obtain ⟨output, other, generated, otherGenerated, findings, structs, _, methods⟩ :=
    table_settings_are_local [listDevices, listTeams] stamped agree
  have agreeing : List.Forall₂ QueryMethod.AgreesUpToRet output.queries other.queries := by
    refine methods.imp ?_
    intro method otherMethod common
    obtain ⟨_, _, _, _, agrees, _⟩ := common
    exact agrees
  exact ⟨stamped, agree, foreign, output, other, generated, otherGenerated, findings, structs,
    agreeing⟩

end TypedSql
