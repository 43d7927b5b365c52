import Mathlib.Data.List.Forall2
import Mathlib.Data.List.Nodup
import TypedSql.Schema.Basic

/-!
# Building catalogs and schemas

An entry with a new name is put between the entries that were there. Inserting
many entries keeps the last one of every name. Entries with pairwise
distinct names can therefore be inserted in any order. A schema that is decoded,
or built of stamped tables, is stamped.
-/

namespace TypedSql

/-- The only entry with a property is the one that a search finds. -/
theorem find?_eq_some_of_unique
    {α : Type} {test : α → Bool} {entries : List α} {entry : α}
    (member : entry ∈ entries) (passes : test entry = true)
    (unique : ∀ other ∈ entries, test other = true → other = entry) :
    entries.find? test = some entry := by
  have somewhere : (entries.find? test).isSome :=
    List.find?_isSome.2 ⟨entry, member, passes⟩
  obtain ⟨other, found⟩ := Option.isSome_iff_exists.1 somewhere
  rw [found, unique other (List.mem_of_find?_eq_some found) (List.find?_some found)]

/-- Lists that are related position by position have equal images under functions
that agree on what is related. -/
theorem map_eq_of_forall₂
    {α β γ : Type} {related : α → β → Prop} {image : α → γ} {otherImage : β → γ}
    {entries : List α} {others : List β}
    (sideBySide : List.Forall₂ related entries others)
    (agree : ∀ entry other, related entry other → image entry = otherImage other) :
    entries.map image = others.map otherImage := by
  have imagesEqual : List.Forall₂ Eq (entries.map image) (others.map otherImage) := by
    rw [List.forall₂_map_left_iff, List.forall₂_map_right_iff]
    exact sideBySide.imp agree
  rwa [List.forall₂_eq_eq_eq] at imagesEqual

namespace Catalog

variable {α : Type} {name : α → String}

/-! ## Entries and their names -/

theorem nodup_names (catalog : Catalog name) : (catalog.entries.map name).Nodup := by
  rw [List.Nodup, List.pairwise_map]
  refine catalog.ascending.imp ?_
  intro left right less same
  rw [same] at less
  exact String.lt_irrefl (name right) less

theorem eq_of_mem_of_name_eq
    {catalog : Catalog name} {entry other : α}
    (member : entry ∈ catalog.entries) (otherMember : other ∈ catalog.entries)
    (sameName : name entry = name other) :
    entry = other :=
  List.inj_on_of_nodup_map catalog.nodup_names member otherMember sameName

/-- Exactly one entry of a catalog has the name of an entry. -/
theorem filter_entries_of_mem
    {catalog : Catalog name} {entry : α} (member : entry ∈ catalog.entries) :
    (catalog.entries.filter fun other => name other = name entry) = [entry] := by
  have distinct : catalog.entries.Nodup := List.Nodup.of_map name catalog.nodup_names
  apply List.perm_singleton.1
  apply (List.perm_ext_iff_of_nodup (distinct.filter _) (List.nodup_singleton entry)).2
  intro other
  rw [List.mem_filter, List.mem_singleton, decide_eq_true_eq]
  constructor
  · intro sharesName
    exact eq_of_mem_of_name_eq sharesName.1 member sharesName.2
  · intro same
    rw [same]
    exact ⟨member, rfl⟩

/-- The entry of a name stands between the entries of other names. -/
theorem exists_split_find? (catalog : Catalog name) (wanted : String) :
    ∃ before after, catalog.entries = before ++ (catalog.find? wanted).toList ++ after ∧
      before ++ after = catalog.entries.filter fun entry => name entry ≠ wanted := by
  cases found : catalog.find? wanted with
  | none =>
      have absent : ∀ entry ∈ catalog.entries, name entry ≠ wanted := by
        simpa [find?] using found
      refine ⟨catalog.entries, [], by simp, ?_⟩
      rw [List.append_nil, List.filter_eq_self.2]
      exact fun entry member => decide_eq_true (absent entry member)
  | some entry =>
      obtain ⟨before, after, split⟩ := List.append_of_mem (mem_of_find? found)
      have sameName := name_eq_of_find? found
      have distinct := catalog.nodup_names
      rw [split, List.map_append, List.map_cons, List.nodup_middle, List.nodup_cons, sameName,
        List.mem_append, not_or] at distinct
      obtain ⟨⟨notBefore, notAfter⟩, _⟩ := distinct
      have keeps {entries : List α} (foreign : wanted ∉ entries.map name) :
          (entries.filter fun other => name other ≠ wanted) = entries := by
        apply List.filter_eq_self.2
        intro other member
        apply decide_eq_true
        intro same
        exact foreign (List.mem_map.2 ⟨other, member, same⟩)
      refine ⟨before, after, by simpa using split, ?_⟩
      rw [split, List.filter_append, List.filter_cons_of_neg (by simp [sameName]),
        keeps notBefore, keeps notAfter]

/-! ## Inserting one entry -/

/-- An entry with a new name comes between the entries before it and those after
it. -/
theorem exists_split_insertEntry
    {entry : α} {entries : List α} (fresh : name entry ∉ entries.map name) :
    ∃ before after, entries = before ++ after ∧
      insertEntry name entry entries = before ++ entry :: after := by
  induction entries with
  | nil => exact ⟨[], [], rfl, rfl⟩
  | cons first rest inductionHypothesis =>
      rw [List.map_cons, List.mem_cons, not_or] at fresh
      obtain ⟨different, freshInRest⟩ := fresh
      by_cases less : name entry < name first
      · refine ⟨[], first :: rest, rfl, ?_⟩
        rw [insertEntry, if_pos less, List.nil_append]
      · have greater : name first < name entry := by
          apply Decidable.of_not_not
          intro notGreater
          exact different
            (String.le_antisymm (String.not_lt.1 notGreater) (String.not_lt.1 less))
        obtain ⟨before, after, split, inserted⟩ := inductionHypothesis freshInRest
        refine ⟨first :: before, after, ?_, ?_⟩
        · rw [split, List.cons_append]
        · rw [insertEntry, if_neg less, if_pos greater, inserted, List.cons_append]

/-- The catalogs with and without an entry of a new name. -/
theorem exists_split_insert
    {catalog : Catalog name} {entry : α} (fresh : name entry ∉ catalog.names) :
    ∃ before after, catalog.entries = before ++ after ∧
      (catalog.insert entry).entries = before ++ entry :: after :=
  exists_split_insertEntry fresh

theorem mem_insert_iff
    {catalog : Catalog name} {entry other : α} (fresh : name entry ∉ catalog.names) :
    other ∈ (catalog.insert entry).entries ↔ other = entry ∨ other ∈ catalog.entries := by
  obtain ⟨before, after, split, inserted⟩ := exists_split_insert fresh
  rw [inserted, split, List.mem_append, List.mem_cons, List.mem_append]
  exact or_left_comm

/-! ## Inserting many entries -/

/-- The last inserted entry of a name is the one that is found. -/
theorem find?_insertMany (catalog : Catalog name) (entries : List α) (wanted : String) :
    (catalog.insertMany entries).find? wanted =
      (entries.reverse.find? fun entry => name entry = wanted).or
        (catalog.find? wanted) := by
  induction entries generalizing catalog with
  | nil => rfl
  | cons entry rest inductionHypothesis =>
      have unfolded :
          catalog.insertMany (entry :: rest) = (catalog.insert entry).insertMany rest := rfl
      rw [unfolded, inductionHypothesis, List.reverse_cons, List.find?_append]
      by_cases same : name entry = wanted
      · subst same
        simp [find?_insert_self]
      · have different : wanted ≠ name entry := fun equal => same equal.symm
        rw [find?_insert_of_ne catalog different]
        simp [same]

theorem find?_eq_some_iff_of_distinct
    {entries : List α} (distinct : (entries.map name).Nodup)
    {wanted : String} {entry : α} :
    (entries.find? fun other => name other = wanted) = some entry ↔
      entry ∈ entries ∧ name entry = wanted := by
  constructor
  · intro found
    have sameName := List.find?_some found
    exact ⟨List.mem_of_find?_eq_some found, of_decide_eq_true sameName⟩
  · intro present
    obtain ⟨member, rfl⟩ := present
    apply find?_eq_some_of_unique member (decide_eq_true rfl)
    intro other otherMember sameName
    exact List.inj_on_of_nodup_map distinct otherMember member (of_decide_eq_true sameName)

/-- The entries of a catalog of entries with distinct names are found under
their names. -/
theorem find?_ofList_eq_some_iff
    {entries : List α} (distinct : (entries.map name).Nodup)
    {wanted : String} {entry : α} :
    (ofList entries : Catalog name).find? wanted = some entry ↔
      entry ∈ entries ∧ name entry = wanted := by
  have reversedDistinct : (entries.reverse.map name).Nodup := by
    rw [List.map_reverse, List.nodup_reverse]
    exact distinct
  rw [ofList, find?_insertMany, find?_empty, Option.or_none,
    find?_eq_some_iff_of_distinct reversedDistinct, List.mem_reverse]

theorem ofList_entries (catalog : Catalog name) : ofList catalog.entries = catalog := by
  apply ext_find?
  intro wanted
  apply Option.ext
  intro entry
  rw [find?_ofList_eq_some_iff catalog.nodup_names, find?_eq_some_iff]

/-- Entries with distinct names make the same catalog in any order. -/
theorem ofList_eq_of_perm
    {entries others : List α}
    (perm : entries.Perm others) (distinct : (entries.map name).Nodup) :
    (ofList entries : Catalog name) = ofList others := by
  have othersDistinct : (others.map name).Nodup := (perm.map name).nodup_iff.1 distinct
  apply ext_find?
  intro wanted
  apply Option.ext
  intro entry
  rw [find?_ofList_eq_some_iff distinct, find?_ofList_eq_some_iff othersDistinct,
    perm.mem_iff]

end Catalog

namespace Schema

/-! ## Stamped schemas -/

theorem stamped_empty : Stamped Catalog.empty := by
  intro table member
  exact nomatch member

theorem Stamped.insert {schema : Schema} {table : Table}
    (stamped : schema.Stamped) (tableStamped : table.Stamped) :
    Stamped (Catalog.insert schema table) := by
  intro other member
  rcases Catalog.mem_insertEntry member with rfl | old
  · exact tableStamped
  · exact stamped other old

theorem stamped_insertMany {schema : Schema} {tables : List Table}
    (stamped : schema.Stamped) (tablesStamped : ∀ table ∈ tables, table.Stamped) :
    Stamped (Catalog.insertMany schema tables) := by
  induction tables generalizing schema with
  | nil => exact stamped
  | cons table rest inductionHypothesis =>
      apply inductionHypothesis
      · exact stamped.insert (tablesStamped table List.mem_cons_self)
      · intro other member
        exact tablesStamped other (List.mem_cons_of_mem table member)

theorem stamped_ofList {tables : List Table}
    (tablesStamped : ∀ table ∈ tables, table.Stamped) :
    Stamped (Catalog.ofList tables) :=
  stamped_insertMany stamped_empty tablesStamped

/-- Decoding stamps every table. -/
theorem stamped_ofMap (tables : NameMap Table) : Stamped (ofMap tables) := by
  apply stamped_ofList
  intro table member
  obtain ⟨pair, _, rfl⟩ := List.mem_map.1 member
  exact Table.stamped_stamp pair.2

end Schema

end TypedSql
