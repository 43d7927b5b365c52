import TypedSql.Generation.Binding
import TypedSql.Json.Decode

/-!
# Generation passes

A generation pass makes the enum types and the structs of a schema and binds
queries to them. An empty query slot stops the pass; what was reported before
stays reported.

The main statements give the outcome of a list of slots: without an empty slot
each query is bound on its own, and otherwise the first empty slot decides.
-/

namespace TypedSql

inductive PassError where
  /-- A query slot is empty. -/
  | emptySlot (index count : Nat)
  /-- The settings could not be read. -/
  | invalidSettings (fault : Fault)
  deriving DecidableEq

/-- The message of an error. The words for a fault of the settings are those of
the decoder that found it. -/
def PassError.message (error : PassError) (wording : Fault → String := fun _ => "") : String :=
  match error with
  | emptySlot index count =>
      "query is missing at index " ++ String.ofList (Nat.toDigits 10 index) ++ " of " ++
        String.ofList (Nat.toDigits 10 count)
  | invalidSettings fault => "invalid settings: " ++ wording fault

/-- A computation that reports findings and may stop. -/
abbrev PassM (α : Type) : Type :=
  ExceptT PassError ReportM α

/-- Binds the queries of slots from an index on, where `count` is the number of
all slots. -/
def bindSlots (settings : Settings) (structs : List StructDecl) (count : Nat) :
    Nat → List (Option Query) → PassM (List QueryMethod)
  | _, [] => return []
  | index, none :: _ => throw (.emptySlot index count)
  | index, some query :: slots => do
      let bound ← bindQuery settings structs query
      let others ← bindSlots settings structs count (index + 1) slots
      return bound.toList ++ others

section

variable (settings : Settings) (structs : List StructDecl)

theorem run_bindSlots_some (count index : Nat) (query : Query)
    (slots : List (Option Query)) (found : Diagnostics) :
    (bindSlots settings structs count index (some query :: slots)).run.run found =
      let rest := (bindSlots settings structs count (index + 1) slots).run.run
        (found ++ queryFindings settings query)
      (rest.1.map ((boundQuery? settings structs query).toList ++ ·), rest.2) := by
  simp only [bindSlots, ExceptT.run_bind, bind_pure_comp, ExceptT.run_map,
    StateT.run_bind]
  simp [yields_bindQuery settings structs query found]
  rfl

/-- When no slot is empty, each query is bound on its own. -/
theorem run_bindSlots_filled (count index : Nat) (queries : List Query)
    (found : Diagnostics) :
    (bindSlots settings structs count index (queries.map some)).run.run found =
      (.ok (queries.filterMap (boundQuery? settings structs)),
        found ++ queries.flatMap (queryFindings settings)) := by
  induction queries generalizing index found with
  | nil =>
      rw [List.flatMap_nil, List.append_nil]
      rfl
  | cons query queries inductionHypothesis =>
      rw [List.map_cons, run_bindSlots_some, inductionHypothesis]
      cases bound : boundQuery? settings structs query <;>
        simp [Except.map, bound]

/-- The first empty slot stops the pass, after the queries before it have been
bound. -/
theorem run_bindSlots_empty (count index : Nat) (before : List Query)
    (after : List (Option Query)) (found : Diagnostics) :
    (bindSlots settings structs count index (before.map some ++ none :: after)).run.run
        found =
      (.error (.emptySlot (index + before.length) count),
        found ++ before.flatMap (queryFindings settings)) := by
  induction before generalizing index found with
  | nil =>
      rw [List.flatMap_nil, List.append_nil]
      rfl
  | cons query before inductionHypothesis =>
      rw [List.map_cons, List.cons_append, run_bindSlots_some, inductionHypothesis]
      simp [Except.map, Nat.add_assoc, Nat.add_comm 1]

end

/-- Binds the queries of all slots to given structs of tables. The methods are
sorted by name. -/
def bindAll (settings : Settings) (structs : List StructDecl)
    (slots : List (Option Query)) : PassM (List QueryMethod) := do
  let bound ← bindSlots settings structs slots.length 0 slots
  return sortByKey QueryMethod.name bound

/-- Makes the structs of the tables of a schema and binds queries to them. -/
def schemaQueries (settings : Settings) (schema : Schema) (slots : List (Option Query)) :
    PassM (List QueryMethod) := do
  let structs ← describeTables settings schema
  bindAll settings structs slots

/-- The outcome of a generation pass. Of the structs it lists those of the
tables; the others belong to the queries that introduce them. -/
structure Outcome where
  enums : List EnumDecl
  structs : List StructDecl
  queries : List QueryMethod
  diagnostics : Diagnostics
  deriving DecidableEq

namespace Outcome

/-- The structs that queries introduce, in the order of the queries, parameters
before rows. -/
def introducedStructs (output : Outcome) : List StructDecl :=
  output.queries.flatMap fun query => [query.arg, query.ret].filterMap MethodValue.introduced?

/-- All structs sorted by name, those of tables before others of the same
name. -/
def structsByName (output : Outcome) : List StructDecl :=
  sortByKey StructDecl.name (output.structs ++ output.introducedStructs)

end Outcome

/-- Runs a whole pass: the structs of the tables are made once and shared by all
queries. -/
def generate (settings : Settings) (schema : Schema) (slots : List (Option Query)) :
    Except PassError Outcome :=
  let (structs, structFindings) := (describeTables settings schema).run []
  match (bindAll settings structs slots).run.run structFindings with
  | (.error error, _) => .error error
  | (.ok queries, diagnostics) =>
      .ok { enums := schemaEnums settings schema, structs, queries, diagnostics }

end TypedSql
