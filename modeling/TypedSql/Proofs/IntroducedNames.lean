import TypedSql.Proofs.SlotBinding
import TypedSql.Proofs.StructReferences

/-!
# Names of introduced structs

Each struct that a query introduces can be traced to the slot of the query and to
what it holds, parameters or rows. Its name is the name of the query with an ending
that tells parameters from rows, so two names meet only if the queries have one
name or an annotation names the rows.
-/

namespace TypedSql

/-! ## Origins -/

/-- What a struct of a query holds. -/
inductive StructRole where
  | params
  | row
  deriving DecidableEq

/-- What a method takes or returns. -/
def QueryMethod.value (method : QueryMethod) : StructRole → MethodValue
  | .params => method.arg
  | .row => method.ret

/-- The slot of a query and one of the structs that the query may introduce. -/
structure StructOrigin where
  slot : Nat
  role : StructRole
  deriving DecidableEq

/-- The query in the slot is bound to a method that introduces the struct. -/
def StructOrigin.Introduces
    (settings : Settings) (structs : List StructDecl) (slots : List (Option Query))
    (origin : StructOrigin) (decl : StructDecl) : Prop :=
  ∃ query method name, slots[origin.slot]? = some (some query) ∧
    BindsTo settings structs query method ∧
    method.value origin.role = .struct name decl true

section

variable {settings : Settings} {structs : List StructDecl} {slots : List (Option Query)}

theorem exists_roles_of_method (method : QueryMethod) :
    ∃ roles : List StructRole, roles.Nodup ∧
      List.Forall₂ (fun role decl => ∃ name, method.value role = .struct name decl true)
        roles ([method.arg, method.ret].filterMap MethodValue.introduced?) := by
  have inOrder := introduced_in_order ([StructRole.params, .row].map method.value)
  rw [List.filter_map, List.forall₂_map_left_iff] at inOrder
  have distinct : [StructRole.params, .row].Nodup := by decide
  exact ⟨_, distinct.filter _, inOrder⟩

/-- The structs that methods introduce come from different origins when the
queries of the methods stand in different slots. -/
theorem exists_origins_of_forall₂
    {placed : List (Query × Nat)} {methods : List QueryMethod}
    (sideBySide : List.Forall₂
      (fun place method => slots[place.2]? = some (some place.1) ∧
        BindsTo settings structs place.1 method)
      placed methods)
    (distinct : (placed.map Prod.snd).Nodup) :
    ∃ origins : List StructOrigin, origins.Nodup ∧
      (∀ origin ∈ origins, origin.slot ∈ placed.map Prod.snd) ∧
      List.Forall₂ (StructOrigin.Introduces settings structs slots) origins
        (methods.flatMap fun method =>
          [method.arg, method.ret].filterMap MethodValue.introduced?) := by
  induction sideBySide with
  | nil => exact ⟨[], List.nodup_nil, by simp, .nil⟩
  | @cons place method rest others first _ inductionHypothesis =>
      rcases first with ⟨inSlot, binds⟩
      rcases List.nodup_cons.1 distinct with ⟨newSlot, distinctRest⟩
      rcases inductionHypothesis distinctRest with ⟨origins, nodup, inSlots, introduce⟩
      rcases exists_roles_of_method method with ⟨roles, distinctRoles, introduceFirst⟩
      have nodupFirst : (roles.map (StructOrigin.mk place.2)).Nodup :=
        distinctRoles.map fun _ _ same => (StructOrigin.mk.inj same).2
      refine ⟨roles.map (StructOrigin.mk place.2) ++ origins, ?_, ?_, ?_⟩
      · -- No later query stands in the slot of the first one.
        apply nodupFirst.append nodup
        intro origin inFirst inRest
        rcases List.mem_map.1 inFirst with ⟨role, _, rfl⟩
        exact newSlot (inSlots _ inRest)
      · intro origin member
        rcases List.mem_append.1 member with inFirst | inRest
        · rcases List.mem_map.1 inFirst with ⟨role, _, rfl⟩
          exact List.mem_cons_self
        · exact List.mem_cons_of_mem _ (inSlots origin inRest)
      · rw [List.flatMap_cons]
        refine List.rel_append ?_ introduce
        rw [List.forall₂_map_left_iff]
        refine introduceFirst.imp ?_
        rintro role decl ⟨name, introduced⟩
        exact ⟨place.1, method, name, inSlot, binds, introduced⟩

end

/-! ## Queries in their slots -/

/-- The bound queries with the numbers of their slots, in the order of their
methods. -/
def placedQueries (queries : List Query) : List (Query × Nat) :=
  sortByKey (fun place => place.1.name) (queries.zipIdx.filter fun place => place.1.isBound)

theorem getElem?_of_mem_placedQueries
    {queries : List Query} {place : Query × Nat} (member : place ∈ placedQueries queries) :
    queries[place.2]? = some place.1 := by
  have inFilter := (sortByKey_perm _ _).mem_iff.1 member
  exact List.mk_mem_zipIdx_iff_getElem?.1 (List.mem_filter.1 inFilter).1

theorem nodup_slots_placedQueries (queries : List Query) :
    ((placedQueries queries).map Prod.snd).Nodup := by
  have kept :
      ((queries.zipIdx.filter fun place => place.1.isBound).map Prod.snd).Sublist
        (queries.zipIdx.map Prod.snd) :=
    List.filter_sublist.map Prod.snd
  rw [List.zipIdx_map_snd] at kept
  rw [placedQueries, ((sortByKey_perm _ _).map Prod.snd).nodup_iff]
  exact kept.nodup List.nodup_range'

theorem forall₂_bindsTo_placedQueries
    (settings : Settings) (structs : List StructDecl) (queries : List Query) :
    List.Forall₂ (fun place method => BindsTo settings structs place.1 method)
      (placedQueries queries)
      (sortByKey QueryMethod.name (queries.filterMap (boundQuery? settings structs))) := by
  have boundQueries : queries.filter Query.isBound =
      (queries.zipIdx.filter fun place => place.1.isBound).map Prod.fst := by
    calc queries.filter Query.isBound
      _ = (queries.zipIdx.map Prod.fst).filter Query.isBound := by rw [List.zipIdx_map_fst]
      _ = (queries.zipIdx.filter fun place => place.1.isBound).map Prod.fst :=
        List.filter_map
  have inOrder : List.Forall₂ (BindsTo settings structs) (queries.filter Query.isBound)
      (queries.filterMap (boundQuery? settings structs)) := forall₂_bindsTo queries
  rw [boundQueries, List.forall₂_map_left_iff] at inOrder
  apply forall₂_sortByKey _ inOrder
  intro place method binds
  exact binds.name_eq

/-- Each introduced struct of a pass has an origin of its own. -/
theorem exists_origins_of_generate
    {settings : Settings} {schema : Schema} {slots : List (Option Query)} {output : Outcome}
    (generated : generate settings schema slots = .ok output) :
    ∃ origins : List StructOrigin, origins.Nodup ∧
      List.Forall₂ (StructOrigin.Introduces settings output.structs slots) origins
        output.introducedStructs := by
  rcases generate_eq_ok_iff.1 generated with ⟨queries, rfl, rfl⟩
  have inSlots : ∀ place ∈ placedQueries queries,
      (queries.map some)[place.2]? = some (some place.1) := by
    intro place member
    rw [List.getElem?_map, getElem?_of_mem_placedQueries member, Option.map_some]
  have sideBySide := (List.forall₂_and_left _ _).2
    ⟨inSlots, forall₂_bindsTo_placedQueries settings (schemaStructs settings schema) queries⟩
  rcases exists_origins_of_forall₂ sideBySide (nodup_slots_placedQueries queries) with
    ⟨origins, nodup, _, introduce⟩
  exact ⟨origins, nodup, introduce⟩

/-! ## Names -/

/-- An annotation gives a name to the row struct of the query. -/
def Query.NamesRows (query : Query) : Prop :=
  ∃ given, query.annotations.rowStructName = some given ∧ given ≠ ""

theorem rowNameOr_of_not_namesRows
    {query : Query} (unnamed : ¬ query.NamesRows) (other : String) :
    query.annotations.rowNameOr other = other := by
  have nothing : filled? query.annotations.rowStructName = none := by
    rw [filled?, Option.filter_eq_none_iff]
    intro given annotated filled
    exact unnamed ⟨given, annotated, of_decide_eq_true filled⟩
  rw [QueryAnnotations.rowNameOr, nothing, Option.getD_none]

def Query.structName (query : Query) : StructRole → String
  | .params => query.name ++ "Params"
  | .row => query.annotations.rowNameOr (query.name ++ "Row")

theorem name_eq_structName
    {settings : Settings} {structs : List StructDecl} {query : Query} {method : QueryMethod}
    (binds : BindsTo settings structs query method) {role : StructRole}
    {name : String} {decl : StructDecl}
    (introduced : method.value role = .struct name decl true) :
    decl.name = query.structName role := by
  rcases boundQuery?_eq_some_iff.1 (boundQuery?_of_bindsTo binds) with ⟨_, command, _, rfl⟩
  cases role with
  | params =>
      rw [eq_paramStruct_of_argValue introduced]
      rfl
  | row =>
      rw [eq_rowStruct_of_retValue introduced]
      rfl

theorem params_ne_row (name other : String) : name ++ "Params" ≠ other ++ "Row" := by
  intro same
  have last := congrArg (fun text => text.toList.getLast?) same
  simp at last

/-- Two structs of queries share a name only under an annotation, or if they play
one role for queries of one name. -/
theorem structName_eq_cases
    {query other : Query} {role otherRole : StructRole}
    (same : query.structName role = other.structName otherRole) :
    (role = .row ∧ query.NamesRows) ∨ (otherRole = .row ∧ other.NamesRows) ∨
      (role = otherRole ∧ query.name = other.name) := by
  by_cases named : role = .row ∧ query.NamesRows
  · exact .inl named
  by_cases otherNamed : otherRole = .row ∧ other.NamesRows
  · exact .inr (.inl otherNamed)
  refine .inr (.inr ?_)
  -- Neither name is given, so the role of each struct is the ending of its name.
  cases role with
  | params =>
      cases otherRole with
      | params => exact ⟨rfl, (String.append_left_inj "Params").1 same⟩
      | row =>
          have unnamed : ¬ other.NamesRows := fun names => otherNamed ⟨rfl, names⟩
          rw [Query.structName, Query.structName, rowNameOr_of_not_namesRows unnamed] at same
          exact absurd same (params_ne_row query.name other.name)
  | row =>
      have unnamed : ¬ query.NamesRows := fun names => named ⟨rfl, names⟩
      rw [Query.structName, rowNameOr_of_not_namesRows unnamed] at same
      cases otherRole with
      | params => exact absurd same.symm (params_ne_row other.name query.name)
      | row =>
          have otherUnnamed : ¬ other.NamesRows := fun names => otherNamed ⟨rfl, names⟩
          rw [Query.structName, rowNameOr_of_not_namesRows otherUnnamed] at same
          exact ⟨rfl, (String.append_left_inj "Row").1 same⟩

/-! ## Collisions -/

namespace StructOrigin

/-- The rows of a query that gives their struct a name. -/
def IsNamedRow (slots : List (Option Query)) (origin : StructOrigin) : Prop :=
  origin.role = .row ∧ ∃ query, slots[origin.slot]? = some (some query) ∧ query.NamesRows

/-- Two different slots hold bound queries of one name. -/
def InNamesakes (slots : List (Option Query)) (origin other : StructOrigin) : Prop :=
  origin.slot ≠ other.slot ∧ ∃ query otherQuery,
    slots[origin.slot]? = some (some query) ∧ slots[other.slot]? = some (some otherQuery) ∧
    query.isBound = true ∧ otherQuery.isBound = true ∧ query.name = otherQuery.name

end StructOrigin

theorem collision_cases
    {settings : Settings} {structs : List StructDecl} {slots : List (Option Query)}
    {origin other : StructOrigin} {decl otherDecl : StructDecl}
    (different : origin ≠ other)
    (introduces : origin.Introduces settings structs slots decl)
    (otherIntroduces : other.Introduces settings structs slots otherDecl)
    (same : decl.name = otherDecl.name) :
    origin.IsNamedRow slots ∨ other.IsNamedRow slots ∨ origin.InNamesakes slots other := by
  rcases introduces with ⟨query, method, name, inSlot, binds, introduced⟩
  rcases otherIntroduces with
    ⟨otherQuery, otherMethod, otherName, otherInSlot, otherBinds, otherIntroduced⟩
  rw [name_eq_structName binds introduced, name_eq_structName otherBinds otherIntroduced] at same
  rcases structName_eq_cases same with ⟨isRow, named⟩ | ⟨isRow, named⟩ | ⟨sameRole, sameName⟩
  · exact .inl ⟨isRow, query, inSlot, named⟩
  · exact .inr (.inl ⟨isRow, otherQuery, otherInSlot, named⟩)
  · have otherSlot : origin.slot ≠ other.slot := by
      intro sameSlot
      cases origin
      cases other
      exact different (congrArg₂ StructOrigin.mk sameSlot sameRole)
    exact .inr (.inr ⟨otherSlot, query, otherQuery, inSlot, otherInSlot, binds.isBound,
      otherBinds.isBound, sameName⟩)

/-- Slots of bound queries with pairwise distinct names hold no namesakes. -/
theorem not_inNamesakes_of_distinct
    {slots : List (Option Query)}
    (distinct : ((slots.reduceOption.filter Query.isBound).map Query.name).Nodup)
    (origin other : StructOrigin) : ¬ origin.InNamesakes slots other := by
  rw [List.Nodup, List.pairwise_map, List.pairwise_filter, List.reduceOption,
    List.pairwise_filterMap, List.pairwise_iff_getElem] at distinct
  rintro ⟨different, query, otherQuery, inSlot, otherInSlot, bound, otherBound, same⟩
  rcases List.getElem?_eq_some_iff.1 inSlot with ⟨inRange, atSlot⟩
  rcases List.getElem?_eq_some_iff.1 otherInSlot with ⟨otherInRange, atOtherSlot⟩
  rcases Nat.lt_or_gt_of_ne different with before | after
  · exact distinct _ _ inRange otherInRange before query atSlot otherQuery atOtherSlot
      bound otherBound same
  · exact distinct _ _ otherInRange inRange after otherQuery atOtherSlot query atSlot
      otherBound bound same.symm

/-! ## Passes -/

/-- Introduced structs have different origins, and two of them share a name only if
one holds the rows of a query that gives them a name, or both belong to bound
queries of one name in different slots. So the names differ when the bound queries
have different names and give none to their rows. -/
theorem introduced_names_collide_only
    {settings : Settings} {schema : Schema} {slots : List (Option Query)} {output : Outcome}
    (generated : generate settings schema slots = .ok output) :
    (∃ origins : List StructOrigin, origins.Nodup ∧
      List.Forall₂ (StructOrigin.Introduces settings output.structs slots) origins
        output.introducedStructs ∧
      ∀ (i j : Nat) origin other decl otherDecl, i ≠ j →
        origins[i]? = some origin → origins[j]? = some other →
        output.introducedStructs[i]? = some decl →
        output.introducedStructs[j]? = some otherDecl →
        decl.name = otherDecl.name →
        origin.IsNamedRow slots ∨ other.IsNamedRow slots ∨ origin.InNamesakes slots other) ∧
    (((slots.reduceOption.filter Query.isBound).map Query.name).Nodup →
      (∀ query, some query ∈ slots → ¬ query.NamesRows) →
      (output.introducedStructs.map StructDecl.name).Nodup) := by
  rcases exists_origins_of_generate generated with ⟨origins, nodup, introduce⟩
  refine ⟨⟨origins, nodup, introduce, ?_⟩, ?_⟩
  · intro i j origin other decl otherDecl different atFirst atSecond first second same
    have otherOrigin : origin ≠ other := by
      intro equal
      rw [← equal] at atSecond
      have inRange := (List.getElem?_eq_some_iff.1 atFirst).1
      exact different ((List.getElem?_inj inRange nodup).1 (atFirst.trans atSecond.symm))
    exact collision_cases otherOrigin (related_of_getElem? introduce atFirst first)
      (related_of_getElem? introduce atSecond second) same
  · intro distinct unnamed
    have noNamedRow : ∀ origin : StructOrigin, ¬ origin.IsNamedRow slots := by
      rintro origin ⟨_, query, inSlot, named⟩
      exact unnamed query (List.mem_of_getElem? inSlot) named
    apply nodup_map_of_forall₂ introduce nodup
    intro origin other decl otherDecl different introduces otherIntroduces same
    rcases collision_cases different introduces otherIntroduces same with named | named | namesakes
    · exact noNamedRow origin named
    · exact noNamedRow other named
    · exact not_inNamesakes_of_distinct distinct origin other namesakes

/-- A query with structs for its parameters and for its rows. -/
def sumOrders : Query :=
  { name := "Sum", command := some .many,
    sql := "SELECT count(*), sum(price) FROM orders WHERE id BETWEEN ? AND ?",
    params := [{ name := "low", typeName := "int" }, { name := "high", typeName := "int" }],
    columns := [.named "orders" "int", .named "total" "int"] }

/-- A query that is called like a struct of another one. -/
def sumParams : Query :=
  { sumOrders with name := "SumParams" }

theorem sumParams_names_nodup :
    generate {} Catalog.empty [some sumOrders, some sumParams] =
        .ok (passOutcome {} Catalog.empty [sumOrders, sumParams]) ∧
      (([some sumOrders, some sumParams].reduceOption.filter Query.isBound).map
        Query.name).Nodup ∧
      (∀ query, some query ∈ [some sumOrders, some sumParams] → ¬ query.NamesRows) ∧
      (passOutcome {} Catalog.empty [sumOrders, sumParams]).introducedStructs.map
          StructDecl.name =
        ["SumParams", "SumRow", "SumParamsParams", "SumParamsRow"] ∧
      ((passOutcome {} Catalog.empty [sumOrders, sumParams]).introducedStructs.map
        StructDecl.name).Nodup := by
  have generated := generate_filled {} Catalog.empty [sumOrders, sumParams]
  have distinct : (([some sumOrders, some sumParams].reduceOption.filter Query.isBound).map
      Query.name).Nodup := by
    decide
  have unnamed : ∀ query, some query ∈ [some sumOrders, some sumParams] →
      ¬ query.NamesRows := by
    rintro query member ⟨given, annotated, _⟩
    rcases List.mem_pair.1 member with same | same
    · rw [Option.some.inj same] at annotated
      exact nomatch annotated
    · rw [Option.some.inj same] at annotated
      exact nomatch annotated
  have methods :
      (passOutcome {} Catalog.empty [sumOrders, sumParams]).queries =
        [sumOrders, sumParams].filterMap (boundQuery? {} (schemaStructs {} Catalog.empty)) :=
    List.mergeSort_of_pairwise (by decide)
  refine ⟨generated, distinct, unnamed, ?_,
    (introduced_names_collide_only generated).2 distinct unnamed⟩
  rw [Outcome.introducedStructs, methods]
  decide

end TypedSql
