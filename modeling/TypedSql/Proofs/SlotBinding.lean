import TypedSql.Proofs.PassOutcome
import TypedSql.Proofs.StableOrder

/-!
# Binding the queries of slots

The first empty slot decides whether the queries of slots are bound at all. If
there is none, every query with a name and a command has one method, and each
method is the one that its query gets when it is bound alone.
-/

namespace TypedSql

/-! ## Slots and the queries in them -/

theorem none_notMem_map_some (queries : List Query) : none ∉ queries.map some := by
  intro member
  obtain ⟨query, _, impossible⟩ := List.mem_map.1 member
  exact nomatch impossible

theorem findIdx?_isNone_map_some (queries : List Query) :
    (queries.map some).findIdx? Option.isNone = none := by
  rw [List.findIdx?_eq_none_iff]
  intro slot member
  obtain ⟨query, _, rfl⟩ := List.mem_map.1 member
  rfl

theorem findIdx?_isNone_of_first_empty
    (before : List Query) (after : List (Option Query)) :
    (before.map some ++ none :: after).findIdx? Option.isNone = some before.length := by
  induction before with
  | nil => rfl
  | cons query before inductionHypothesis =>
      rw [List.map_cons, List.cons_append, List.findIdx?_cons, inductionHypothesis]
      rfl

/-! ## Lists side by side -/

/-- Two lists beside a common one are beside each other. -/
theorem forall₂_of_common
    {α β γ : Type} {related : α → β → Prop} {otherRelated : α → γ → Prop}
    {commons : List α} {entries : List β} {others : List γ}
    (sideBySide : List.Forall₂ related commons entries)
    (otherSideBySide : List.Forall₂ otherRelated commons others) :
    List.Forall₂
      (fun entry other => ∃ common ∈ commons, related common entry ∧ otherRelated common other)
      entries others := by
  induction sideBySide generalizing others with
  | nil =>
      cases otherSideBySide
      exact .nil
  | @cons first _ rest _ relatedFirst _ inductionHypothesis =>
      cases otherSideBySide with
      | cons otherRelatedFirst otherRest =>
          refine .cons ⟨first, List.mem_cons_self, relatedFirst, otherRelatedFirst⟩ ?_
          refine (inductionHypothesis otherRest).imp ?_
          intro entry other shared
          obtain ⟨common, member, both⟩ := shared
          exact ⟨common, List.mem_cons_of_mem first member, both⟩

theorem related_of_getElem?
    {α β : Type} {related : α → β → Prop} {sources : List α} {entries : List β}
    (sideBySide : List.Forall₂ related sources entries) {i : Nat} {source : α} {entry : β}
    (atSource : sources[i]? = some source) (atEntry : entries[i]? = some entry) :
    related source entry := by
  have paired : (sources.zip entries)[i]? = some (source, entry) :=
    List.getElem?_zip_eq_some.2 ⟨atSource, atEntry⟩
  exact (List.forall₂_iff_zip.1 sideBySide).2 (List.mem_of_getElem? paired)

theorem nodup_map_of_forall₂
    {α β γ : Type} {related : α → β → Prop} {image : β → γ} {sources : List α} {entries : List β}
    (sideBySide : List.Forall₂ related sources entries) (distinct : sources.Nodup)
    (apart : ∀ source other entry otherEntry, source ≠ other → related source entry →
      related other otherEntry → image entry ≠ image otherEntry) :
    (entries.map image).Nodup := by
  induction sideBySide with
  | nil => exact List.nodup_nil
  | @cons source entry rest others first sideBySideRest inductionHypothesis =>
      rcases List.nodup_cons.1 distinct with ⟨new, distinctRest⟩
      refine List.nodup_cons.2 ⟨?_, inductionHypothesis distinctRest⟩
      intro repeated
      rcases List.mem_map.1 repeated with ⟨otherEntry, inOthers, same⟩
      rcases List.getElem?_of_mem inOthers with ⟨i, atEntry⟩
      have inRange : i < rest.length := by
        rw [sideBySideRest.length_eq]
        exact (List.getElem?_eq_some_iff.1 atEntry).1
      have atSource := List.getElem?_eq_getElem inRange
      have otherSource : source ≠ rest[i] := fun equal => new (equal ▸ List.getElem_mem inRange)
      exact apart source rest[i] entry otherEntry otherSource first
        (related_of_getElem? sideBySideRest atSource atEntry) same.symm

/-! ## Queries and their methods -/

/-- Binding a query gives this method and the findings about its result columns,
whatever was found before. -/
def BindsTo
    (settings : Settings) (structs : List StructDecl) (query : Query) (method : QueryMethod) :
    Prop :=
  Yields (bindQuery settings structs query) (some method) (queryFindings settings query)

section

variable {settings : Settings} {structs : List StructDecl}

theorem bindsTo_of_boundQuery?
    {query : Query} {method : QueryMethod}
    (described : boundQuery? settings structs query = some method) :
    BindsTo settings structs query method := by
  rw [BindsTo, ← described]
  exact yields_bindQuery settings structs query

theorem boundQuery?_of_bindsTo
    {query : Query} {method : QueryMethod} (binds : BindsTo settings structs query method) :
    boundQuery? settings structs query = some method := by
  have described := yields_bindQuery settings structs query []
  have bound := binds []
  rw [described] at bound
  exact (Prod.mk.inj bound).1

theorem BindsTo.name_eq
    {query : Query} {method : QueryMethod} (binds : BindsTo settings structs query method) :
    query.name = method.name := by
  obtain ⟨_, command, _, rfl⟩ := boundQuery?_eq_some_iff.1 (boundQuery?_of_bindsTo binds)
  rfl

theorem BindsTo.isBound
    {query : Query} {method : QueryMethod} (binds : BindsTo settings structs query method) :
    query.isBound = true := by
  rcases boundQuery?_eq_some_iff.1 (boundQuery?_of_bindsTo binds) with
    ⟨named, command, known, _⟩
  exact isBound_iff.2 ⟨named, command, known⟩

/-- The bound queries and their methods, side by side in the order of the
queries. -/
theorem forall₂_bindsTo (queries : List Query) :
    List.Forall₂ (BindsTo settings structs)
      (queries.filter Query.isBound) (queries.filterMap (boundQuery? settings structs)) := by
  induction queries with
  | nil => exact .nil
  | cons query rest inductionHypothesis =>
      by_cases bound : query.isBound = true
      · obtain ⟨command, described⟩ := boundQuery?_of_isBound settings structs bound
        rw [List.filterMap_cons_some described, List.filter_cons_of_pos bound]
        exact .cons (bindsTo_of_boundQuery? described) inductionHypothesis
      · have skipped := boundQuery?_of_not_isBound settings structs bound
        rw [List.filterMap_cons_none skipped, List.filter_cons_of_neg bound]
        exact inductionHypothesis

/-- Sorted methods stand beside their queries when these are sorted too. -/
theorem forall₂_bindsTo_sortByKey
    (settings : Settings) (structs : List StructDecl) (queries : List Query) :
    List.Forall₂ (BindsTo settings structs)
      (sortByKey Query.name (queries.filter Query.isBound))
      (sortByKey QueryMethod.name (queries.filterMap (boundQuery? settings structs))) := by
  apply forall₂_sortByKey _ (forall₂_bindsTo queries)
  intro query method binds
  exact binds.name_eq

/-- The methods of the bound ones among some queries: each is what its query
gets alone, they ascend by name, and those of one name come in the order of the
queries. -/
structure MethodsOf
    (settings : Settings) (structs : List StructDecl)
    (queries : List Query) (methods : List QueryMethod) : Prop where
  ascending : methods.Pairwise fun left right => left.name ≤ right.name
  onePerQuery : ∃ ordered : List Query, ordered.Perm (queries.filter Query.isBound) ∧
    List.Forall₂ (BindsTo settings structs) ordered methods
  inOrder : ∀ name, List.Forall₂ (BindsTo settings structs)
    ((queries.filter Query.isBound).filter fun query => query.name = name)
    (methods.filter fun method => method.name = name)

theorem methodsOf_sortByKey (queries : List Query) :
    MethodsOf settings structs queries
      (sortByKey QueryMethod.name (queries.filterMap (boundQuery? settings structs))) where
  ascending := pairwise_sortByKey QueryMethod.name _
  onePerQuery :=
    ⟨sortByKey Query.name (queries.filter Query.isBound), sortByKey_perm _ _,
      forall₂_bindsTo_sortByKey settings structs queries⟩
  inOrder := by
    intro name
    rw [filter_sortByKey]
    apply List.rel_filter _ (forall₂_bindsTo queries)
    intro query method binds
    simp only [binds.name_eq]

end

/-- Two ways of binding the same queries give methods side by side, each pair of
them made of one query. -/
theorem forall₂_methods
    (settings otherSettings : Settings) (structs otherStructs : List StructDecl)
    (queries : List Query) :
    List.Forall₂
      (fun method other => ∃ query ∈ queries,
        BindsTo settings structs query method ∧
          BindsTo otherSettings otherStructs query other)
      (sortByKey QueryMethod.name (queries.filterMap (boundQuery? settings structs)))
      (sortByKey QueryMethod.name
        (queries.filterMap (boundQuery? otherSettings otherStructs))) := by
  have methods := forall₂_bindsTo_sortByKey settings structs queries
  have others := forall₂_bindsTo_sortByKey otherSettings otherStructs queries
  refine (forall₂_of_common methods others).imp ?_
  intro method other common
  obtain ⟨query, inOrdered, binds⟩ := common
  have inBound := (sortByKey_perm Query.name _).mem_iff.1 inOrdered
  exact ⟨query, (List.mem_filter.1 inBound).1, binds⟩

/-! ## Outcomes of all slots -/

/-- Slots are bound unless one of them is empty. The first empty slot is named
by the error, and what was found before it stays reported; otherwise the methods
of all bound queries are returned. -/
theorem bindAll_outcome
    (settings : Settings) (structs : List StructDecl) (slots : List (Option Query))
    (found : Diagnostics) :
    ((∃ error, ((bindAll settings structs slots).run.run found).1 = .error error) ↔
      none ∈ slots) ∧
    (∀ index, slots.findIdx? Option.isNone = some index →
      (bindAll settings structs slots).run.run found =
        (.error (.emptySlot index slots.length),
          found ++ (slots.take index).reduceOption.flatMap (queryFindings settings))) ∧
    (none ∉ slots → ∃ methods,
      (bindAll settings structs slots).run.run found =
        (.ok methods, found ++ slots.reduceOption.flatMap (queryFindings settings)) ∧
      MethodsOf settings structs slots.reduceOption methods) ∧
    ∀ query, Yields (bindQuery settings structs query) (boundQuery? settings structs query)
      (queryFindings settings query) := by
  have alone := yields_bindQuery settings structs
  rcases slots_filled_or_empty slots with ⟨queries, rfl⟩ | ⟨before, after, rfl⟩
  · have filled := none_notMem_map_some queries
    have ran := run_bindAll_filled settings structs queries found
    refine ⟨⟨?_, ?_⟩, ?_, ?_, alone⟩
    · intro failed
      obtain ⟨error, failed⟩ := failed
      rw [ran] at failed
      exact nomatch failed
    · intro empty
      exact absurd empty filled
    · intro index first
      rw [findIdx?_isNone_map_some] at first
      exact nomatch first
    · intro _
      rw [reduceOption_map_some]
      exact ⟨_, ran, methodsOf_sortByKey queries⟩
  -- What the queries behind the first empty slot would report does not appear in `ran`.
  · have empty : none ∈ before.map some ++ none :: after :=
      List.mem_append_right _ List.mem_cons_self
    have ran := run_bindAll_empty settings structs before after found
    refine ⟨⟨?_, ?_⟩, ?_, ?_, alone⟩
    · intro _
      exact empty
    · intro _
      rw [ran]
      exact ⟨_, rfl⟩
    · intro index first
      rw [findIdx?_isNone_of_first_empty, Option.some.injEq] at first
      subst first
      rw [ran, List.take_left' (List.length_map some), reduceOption_map_some]
      simp only [List.length_append, List.length_map, List.length_cons]
    · intro filled
      exact absurd empty filled

def listShapes : Query :=
  { name := "ListShapes", command := some .many, sql := "SELECT shape FROM places",
    columns := [{ label := some "shape", nativeType := "polygon", table := "places" }] }

def draftShapes : Query :=
  { name := "DraftShapes", sql := "SELECT shape FROM places", columns := listShapes.columns }

theorem third_slot_empty :
    [some listShapes, some draftShapes, none, some listShapes].findIdx? Option.isNone = some 2 ∧
      (bindAll {} [] [some listShapes, some draftShapes, none, some listShapes]).run.run
          [.unknownType "places" "spot" "point"] =
        (.error (.emptySlot 2 4),
          [.unknownType "places" "spot" "point", .unknownType "places" "shape" "polygon"]) := by
  obtain ⟨_, stops, _⟩ := bindAll_outcome {} []
    [some listShapes, some draftShapes, none, some listShapes]
    [.unknownType "places" "spot" "point"]
  exact ⟨rfl, stops 2 rfl⟩

end TypedSql
