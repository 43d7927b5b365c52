import Mathlib.Data.List.ReduceOption
import TypedSql.Generation.Basic

/-!
# What a generation pass produces

A pass succeeds exactly when no slot is empty. Its outcome then consists of the
enum types and structs of the schema, the methods of the queries sorted by name,
and the findings about the schema followed by those about the queries.
-/

namespace TypedSql

/-! ## Slots -/

/-- Either all slots are filled, or one of them is the first empty one. -/
theorem slots_filled_or_empty (slots : List (Option Query)) :
    (∃ queries : List Query, slots = queries.map some) ∨
      ∃ (before : List Query) (after : List (Option Query)),
        slots = before.map some ++ none :: after := by
  induction slots with
  | nil => exact .inl ⟨[], rfl⟩
  | cons slot rest inductionHypothesis =>
      cases slot with
      | none => exact .inr ⟨[], rest, rfl⟩
      | some query =>
          rcases inductionHypothesis with ⟨queries, filled⟩ | ⟨before, after, empty⟩
          · rw [filled]
            exact .inl ⟨query :: queries, rfl⟩
          · rw [empty]
            exact .inr ⟨query :: before, after, rfl⟩

theorem reduceOption_map_some (queries : List Query) :
    (queries.map some).reduceOption = queries := by
  rw [List.reduceOption, List.filterMap_map]
  exact List.filterMap_some

section

variable (settings : Settings) (structs : List StructDecl)

theorem run_bindAll_filled (queries : List Query) (found : Diagnostics) :
    (bindAll settings structs (queries.map some)).run.run found =
      (.ok (sortByKey QueryMethod.name (queries.filterMap (boundQuery? settings structs))),
        found ++ queries.flatMap (queryFindings settings)) := by
  have bound := run_bindSlots_filled settings structs (queries.map some).length 0 queries found
  simp only [bindAll, bind_pure_comp, ExceptT.run_map, StateT.run_map, bound]
  rfl

theorem run_bindAll_empty
    (before : List Query) (after : List (Option Query)) (found : Diagnostics) :
    (bindAll settings structs (before.map some ++ none :: after)).run.run found =
      (.error (.emptySlot before.length (before.length + (after.length + 1))),
        found ++ before.flatMap (queryFindings settings)) := by
  have stopped := run_bindSlots_empty settings structs
    (before.map some ++ none :: after).length 0 before after found
  simp only [bindAll, bind_pure_comp, ExceptT.run_map, StateT.run_map, stopped]
  simp only [List.length_append, List.length_map, List.length_cons, Nat.zero_add]
  rfl

end

/-! ## Whole passes -/

/-- The outcome of a pass over a schema and the queries in its slots. -/
def passOutcome (settings : Settings) (schema : Schema) (queries : List Query) : Outcome where
  enums := schemaEnums settings schema
  structs := schemaStructs settings schema
  queries := sortByKey QueryMethod.name
    (queries.filterMap (boundQuery? settings (schemaStructs settings schema)))
  diagnostics := schemaFindings settings schema ++ queries.flatMap (queryFindings settings)

theorem generate_filled (settings : Settings) (schema : Schema) (queries : List Query) :
    generate settings schema (queries.map some) =
      .ok (passOutcome settings schema queries) := by
  have described := yields_describeTables settings schema []
  rw [List.nil_append] at described
  simp only [generate, described, run_bindAll_filled]
  rfl

theorem generate_empty
    (settings : Settings) (schema : Schema)
    (before : List Query) (after : List (Option Query)) :
    generate settings schema (before.map some ++ none :: after) =
      .error (.emptySlot before.length (before.length + (after.length + 1))) := by
  have described := yields_describeTables settings schema []
  simp only [generate, described, run_bindAll_empty]

/-- A pass succeeds exactly when all slots are filled. -/
theorem generate_eq_ok_iff
    {settings : Settings} {schema : Schema}
    {slots : List (Option Query)} {output : Outcome} :
    generate settings schema slots = .ok output ↔
      ∃ queries, slots = queries.map some ∧
        output = passOutcome settings schema queries := by
  constructor
  · intro generated
    rcases slots_filled_or_empty slots with ⟨queries, rfl⟩ | ⟨before, after, rfl⟩
    · rw [generate_filled] at generated
      injection generated with same
      exact ⟨queries, rfl, same.symm⟩
    · rw [generate_empty] at generated
      exact nomatch generated
  · intro filled
    obtain ⟨queries, rfl, rfl⟩ := filled
    exact generate_filled settings schema queries

/-! ## Methods of a successful pass -/

theorem boundQuery?_eq_some_iff
    {settings : Settings} {structs : List StructDecl}
    {query : Query} {method : QueryMethod} :
    boundQuery? settings structs query = some method ↔
      query.name ≠ "" ∧ ∃ command, query.command = some command ∧
        method = describeQuery settings structs query command
          (resultColumns settings query) := by
  unfold boundQuery?
  by_cases unnamed : query.name = ""
  · simp [unnamed]
  · simp only [unnamed, if_false, Option.map_eq_some_iff, ne_eq, not_false_eq_true,
      true_and]
    simp only [eq_comm (a := method)]

theorem isBound_iff {query : Query} :
    query.isBound = true ↔ query.name ≠ "" ∧ ∃ command, query.command = some command := by
  simp [Query.isBound, Option.isSome_iff_exists]

section

variable (settings : Settings) (structs : List StructDecl)

theorem boundQuery?_of_isBound {query : Query} (bound : query.isBound = true) :
    ∃ command, boundQuery? settings structs query =
      some (describeQuery settings structs query command (resultColumns settings query)) := by
  obtain ⟨named, command, known⟩ := isBound_iff.1 bound
  exact ⟨command, boundQuery?_eq_some_iff.2 ⟨named, command, known, rfl⟩⟩

theorem boundQuery?_of_not_isBound {query : Query} (skipped : ¬ query.isBound = true) :
    boundQuery? settings structs query = none := by
  rw [Option.eq_none_iff_forall_ne_some]
  intro method described
  obtain ⟨named, command, known, _⟩ := boundQuery?_eq_some_iff.1 described
  exact skipped (isBound_iff.2 ⟨named, command, known⟩)

end

section

variable {settings : Settings} {schema : Schema} {slots : List (Option Query)}
  {output : Outcome}

theorem structs_of_generate (generated : generate settings schema slots = .ok output) :
    output.structs = schemaStructs settings schema := by
  obtain ⟨queries, _, rfl⟩ := generate_eq_ok_iff.1 generated
  rfl

theorem enums_of_generate (generated : generate settings schema slots = .ok output) :
    output.enums = schemaEnums settings schema := by
  obtain ⟨queries, _, rfl⟩ := generate_eq_ok_iff.1 generated
  rfl

/-- The methods of a pass are the methods of the bound queries in its slots. -/
theorem mem_queries_of_generate_iff
    (generated : generate settings schema slots = .ok output) {method : QueryMethod} :
    method ∈ output.queries ↔
      ∃ query, some query ∈ slots ∧ boundQuery? settings output.structs query = some method := by
  obtain ⟨queries, rfl, rfl⟩ := generate_eq_ok_iff.1 generated
  simp only [passOutcome, (sortByKey_perm _ _).mem_iff, List.mem_filterMap, List.mem_map,
    Option.some.injEq, exists_eq_right]

/-- A bound query in a slot of a pass has its method among those of the outcome. -/
theorem exists_method_of_generate
    (generated : generate settings schema slots = .ok output)
    {query : Query} (member : some query ∈ slots) (bound : query.isBound = true) :
    ∃ method ∈ output.queries,
      Yields (bindQuery settings output.structs query) (some method)
        (queryFindings settings query) ∧
      method.ret =
        retValue settings output.structs query (resultColumns settings query) := by
  obtain ⟨command, described⟩ := boundQuery?_of_isBound settings output.structs bound
  refine ⟨_, (mem_queries_of_generate_iff generated).2 ⟨query, member, described⟩, ?_, rfl⟩
  rw [← described]
  exact yields_bindQuery settings output.structs query

end

end TypedSql
