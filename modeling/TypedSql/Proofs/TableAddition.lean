import TypedSql.Proofs.RowReuse
import TypedSql.Proofs.SlotBinding

/-!
# Adding a table

A table of a new name adds its own struct and its own enum types to a pass and
leaves the others as they are. It bears on a query only if several result columns
come all of them from this table, and then only on what the method returns: the
struct of the table belongs to no other result columns, whatever names and types
they get.
-/

namespace TypedSql

/-- The query returns several columns, all of them from one table. -/
def Query.SelectsFrom (query : Query) (table : String) : Prop :=
  2 ≤ query.columns.length ∧ ∀ column ∈ query.columns, column.table = table

instance (query : Query) (table : String) : Decidable (query.SelectsFrom table) :=
  inferInstanceAs (Decidable (2 ≤ query.columns.length ∧
    ∀ column ∈ query.columns, column.table = table))

/-- Two methods that differ at most in what they return. -/
def QueryMethod.AgreesUpToRet (method other : QueryMethod) : Prop :=
  other = { method with ret := other.ret }

section

variable (settings : Settings) {schema : Schema} {table : Table}

/-! ## Structs and enum types -/

theorem filter_structs_of_foreign
    {others : List Table} (foreign : table.name ∉ others.map Table.name) :
    ((others.map (tableStruct settings)).filter fun decl => decl.table ≠ some table.name) =
      others.map (tableStruct settings) := by
  apply List.filter_eq_self.2
  intro decl member
  obtain ⟨other, inOthers, rfl⟩ := List.mem_map.1 member
  have different : other.name ≠ table.name := by
    intro same
    exact foreign (List.mem_map.2 ⟨other, inOthers, same⟩)
  simpa using different

/-- Without the struct of the new table, the structs are those of the other
tables in their old order. -/
theorem filter_schemaStructs_insert (fresh : table.name ∉ schema.names) :
    ((schemaStructs settings (schema.insert table)).filter
        fun decl => decl.table ≠ some table.name) =
      schemaStructs settings schema := by
  obtain ⟨before, after, split, inserted⟩ := Catalog.exists_split_insert fresh
  rw [Catalog.names, split, List.map_append, List.mem_append, not_or] at fresh
  obtain ⟨notBefore, notAfter⟩ := fresh
  have dropped :
      (((table :: after).map (tableStruct settings)).filter
          fun decl => decl.table ≠ some table.name) =
        (after.map (tableStruct settings)).filter fun decl => decl.table ≠ some table.name :=
    List.filter_cons_of_neg (by simp)
  -- The struct may be left out before sorting, so structs of its name keep their order.
  rw [schemaStructs, schemaStructs, filter_sortByKey_comm, inserted, split, List.map_append,
    List.filter_append, dropped, filter_structs_of_foreign settings notBefore,
    filter_structs_of_foreign settings notAfter, List.map_append]

theorem exists_split_schemaEnums_insert (fresh : table.name ∉ schema.names) :
    ∃ before after, schemaEnums settings schema = before ++ after ∧
      schemaEnums settings (schema.insert table) =
        before ++ tableEnums settings table ++ after := by
  obtain ⟨before, after, split, inserted⟩ := Catalog.exists_split_insert fresh
  refine ⟨before.flatMap (tableEnums settings), after.flatMap (tableEnums settings), ?_, ?_⟩
  · rw [schemaEnums, split, List.flatMap_append]
  · rw [schemaEnums, inserted, List.flatMap_append, List.flatMap_cons, List.append_assoc]

/-! ## Methods -/

variable {query : Query}

/-- Result columns that do not all come from the new table reuse the same struct
as before, or none as before. -/
theorem reusedStruct?_insert
    (fresh : table.name ∉ schema.names) (nonempty : query.columns ≠ [])
    (foreign : ¬ ∀ column ∈ query.columns, column.table = table.name) :
    reusedStruct? settings (schemaStructs settings (schema.insert table))
        (resultColumns settings query) =
      reusedStruct? settings (schemaStructs settings schema)
        (resultColumns settings query) := by
  apply Option.ext
  intro decl
  rw [reusedStruct?_eq_some_iff nonempty, reusedStruct?_eq_some_iff nonempty]
  constructor
  · intro filled
    obtain ⟨other, member, fills, same⟩ := filled
    rcases (Catalog.mem_insert_iff fresh).1 member with new | old
    · -- Only columns of its own table fill the new one.
      rw [new] at fills
      exact absurd fills.sameTable foreign
    · exact ⟨other, old, fills, same⟩
  · intro filled
    obtain ⟨other, old, fills, same⟩ := filled
    exact ⟨other, (Catalog.mem_insert_iff fresh).2 (.inr old), fills, same⟩

theorem retValue_insert
    (fresh : table.name ∉ schema.names) (foreign : ¬ query.SelectsFrom table.name) :
    retValue settings (schemaStructs settings (schema.insert table)) query
        (resultColumns settings query) =
      retValue settings (schemaStructs settings schema) query
        (resultColumns settings query) := by
  by_cases several : 2 ≤ query.columns.length
  · have nonempty : query.columns ≠ [] :=
      List.ne_nil_of_length_pos (Nat.lt_of_lt_of_le Nat.zero_lt_two several)
    have otherTable : ¬ ∀ column ∈ query.columns, column.table = table.name := fun sameTable =>
      foreign ⟨several, sameTable⟩
    have severalResults : 2 ≤ (resultColumns settings query).length := by
      rw [length_resultColumns]
      exact several
    rw [retValue_of_two_le settings _ query severalResults,
      retValue_of_two_le settings _ query severalResults,
      reusedStruct?_insert settings fresh nonempty otherTable]
  · have few : (resultColumns settings query).length < 2 := by
      rw [length_resultColumns]
      exact Nat.lt_of_not_le several
    exact retValue_of_lt_two settings settings _ _ query few

theorem method_insert
    {method other : QueryMethod} (fresh : table.name ∉ schema.names)
    (binds : BindsTo settings (schemaStructs settings schema) query method)
    (otherBinds :
      BindsTo settings (schemaStructs settings (schema.insert table)) query other) :
    method.AgreesUpToRet other ∧ (¬ query.SelectsFrom table.name → other = method) := by
  obtain ⟨_, command, known, rfl⟩ :=
    boundQuery?_eq_some_iff.1 (boundQuery?_of_bindsTo binds)
  obtain ⟨_, otherCommand, otherKnown, rfl⟩ :=
    boundQuery?_eq_some_iff.1 (boundQuery?_of_bindsTo otherBinds)
  rw [known, Option.some.injEq] at otherKnown
  subst otherKnown
  refine ⟨rfl, ?_⟩
  intro foreign
  rw [describeQuery, describeQuery, retValue_insert settings fresh foreign]

end

/-- Adding a table of a new name adds one struct and one block of enum types to
a pass. The other structs and enum types and the methods stay, except for what
is returned by queries that select several columns from the new table. -/
theorem adding_table_is_local
    (settings : Settings) {schema : Schema} {table : Table} (queries : List Query)
    (fresh : table.name ∉ schema.names) :
    ∃ old new,
      generate settings schema (queries.map some) = .ok old ∧
      generate settings (schema.insert table) (queries.map some) = .ok new ∧
      (new.structs.filter fun decl => decl.table = some table.name) =
        [tableStruct settings table] ∧
      (new.structs.filter fun decl => decl.table ≠ some table.name) = old.structs ∧
      (∃ before after, old.enums = before ++ after ∧
        new.enums = before ++ tableEnums settings table ++ after) ∧
      List.Forall₂
        (fun method other => ∃ query ∈ queries,
          BindsTo settings old.structs query method ∧
          BindsTo settings new.structs query other ∧
          method.AgreesUpToRet other ∧
          (¬ query.SelectsFrom table.name → other = method))
        old.queries new.queries := by
  have inSchema : table ∈ (schema.insert table).entries :=
    (Catalog.mem_insert_iff fresh).2 (.inl rfl)
  have methods := forall₂_methods settings settings (schemaStructs settings schema)
    (schemaStructs settings (schema.insert table)) queries
  refine ⟨passOutcome settings schema queries,
    passOutcome settings (schema.insert table) queries,
    generate_filled settings schema queries,
    generate_filled settings (schema.insert table) queries,
    filter_schemaStructs_of_mem settings inSchema,
    filter_schemaStructs_insert settings fresh,
    exists_split_schemaEnums_insert settings fresh, ?_⟩
  refine methods.imp ?_
  intro method other common
  obtain ⟨query, member, binds, otherBinds⟩ := common
  exact ⟨query, member, binds, otherBinds, method_insert settings fresh binds otherBinds⟩

/-- The struct of the devices is named like the one of the accounts. -/
def accountSettings : Settings :=
  Settings.withTable {} "app_devices" { structName := some "Account" }

def countDevices : Query :=
  { name := "CountDevices", command := some .one, sql := "SELECT COUNT(id) FROM app_devices",
    columns := [{ nativeType := "bigint", notNull := true, table := "app_devices" }] }

theorem devices_added_to_accounts :
    deviceTable.name ∉ (Catalog.ofList [accountTable] : Schema).names ∧
      Naming.tableTypeName accountSettings deviceTable.name =
        Naming.tableTypeName accountSettings accountTable.name ∧
      listDevices.SelectsFrom deviceTable.name ∧
      ¬ countDevices.SelectsFrom deviceTable.name ∧
      ∃ old new,
        generate accountSettings (Catalog.ofList [accountTable])
            [some listDevices, some countDevices] = .ok old ∧
          generate accountSettings (Catalog.insert (Catalog.ofList [accountTable]) deviceTable)
            [some listDevices, some countDevices] = .ok new ∧
          (new.structs.filter fun decl => decl.table ≠ some deviceTable.name) =
            old.structs ∧
          List.Forall₂ QueryMethod.AgreesUpToRet old.queries new.queries := by
  have fresh : deviceTable.name ∉ (Catalog.ofList [accountTable] : Schema).names := by decide
  have sameName :
      Naming.tableTypeName accountSettings deviceTable.name =
        Naming.tableTypeName accountSettings accountTable.name := by decide
  have selects : listDevices.SelectsFrom deviceTable.name := by decide
  have counts : ¬ countDevices.SelectsFrom deviceTable.name := by decide
  obtain ⟨old, new, generated, generatedNew, _, dropped, _, methods⟩ :=
    adding_table_is_local accountSettings [listDevices, countDevices] fresh
  have agree : List.Forall₂ QueryMethod.AgreesUpToRet old.queries new.queries := by
    refine methods.imp ?_
    intro method other common
    obtain ⟨_, _, _, _, agrees, _⟩ := common
    exact agrees
  exact ⟨fresh, sameName, selects, counts, old, new, generated, generatedNew, dropped, agree⟩

end TypedSql
