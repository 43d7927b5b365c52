import Mathlib.Data.List.Forall2
import Mathlib.Data.List.Nodup
import TypedSql.KeyOrder

/-!
# Stability of sorting by a text

Sorting keeps the entries of every single key in their order, and this
determines the sorted list. It follows that sorting commutes with leaving
entries out, with replacing entries by others of the same key, and with a
relation between entries of the same key. When no two entries share a key, the
result does not depend on the order of the entries.
-/

namespace TypedSql

variable {α β : Type}

/-- The entries of one key stand in the sorted list as they stood before. -/
theorem filter_sortByKey
    (key : α → String) (entries : List α) (wanted : String) :
    (sortByKey key entries).filter (fun entry => key entry = wanted) =
      entries.filter fun entry => key entry = wanted := by
  have oneKey : ∀ entry ∈ entries.filter (fun entry => key entry = wanted),
      key entry = wanted := by
    intro entry member
    simpa only [decide_eq_true_eq] using (List.mem_filter.1 member).2
  have ordered :
      (entries.filter fun entry => key entry = wanted).Pairwise
        fun left right => decide (key left ≤ key right) = true := by
    refine List.pairwise_of_forall_mem_list ?_
    intro left leftMember right rightMember
    rw [oneKey left leftMember, oneKey right rightMember]
    exact decide_eq_true (String.le_refl wanted)
  have kept :
      (entries.filter fun entry => key entry = wanted).Sublist
        (sortByKey key entries) :=
    List.sublist_mergeSort (keyLe_trans key) (keyLe_total key) ordered
      List.filter_sublist
  have keptAmongEqual := kept.filter fun entry => decide (key entry = wanted)
  rw [List.filter_filter] at keptAmongEqual
  simp only [Bool.and_self] at keptAmongEqual
  have sameLength :=
    ((sortByKey_perm key entries).filter fun entry => decide (key entry = wanted)).length_eq
  exact (keptAmongEqual.eq_of_length sameLength.symm).symm

/-- Sorted entries of one key stand in the order in which they stood before. -/
theorem pairwise_sortByKey_lex
    {key : α → String} {before : α → α → Prop} {entries : List α}
    (ordered : entries.Pairwise before) :
    (sortByKey key entries).Pairwise fun left right =>
      key left < key right ∨ key left = key right ∧ before left right := by
  rw [List.pairwise_iff_forall_sublist]
  intro left right pair
  have le : key left ≤ key right :=
    List.pairwise_iff_forall_sublist.1 (pairwise_sortByKey key entries) pair
  by_cases same : key left = key right
  · have inClass := pair.filter fun entry => decide (key entry = key right)
    rw [filter_sortByKey] at inClass
    simp only [List.filter_cons, same, decide_true, if_true, List.filter_nil] at inClass
    exact .inr ⟨same,
      List.pairwise_iff_forall_sublist.1 ordered (inClass.trans List.filter_sublist)⟩
  · have notGreater : ¬ key right ≤ key left := fun ge => same (String.le_antisymm le ge)
    exact .inl (String.not_le.1 notGreater)

/-- Entries with pairwise distinct keys have one sorted order. -/
theorem sortByKey_eq_of_perm
    {key : α → String} {entries others : List α}
    (perm : entries.Perm others) (distinct : (entries.map key).Nodup) :
    sortByKey key entries = sortByKey key others := by
  have samePermutation : (sortByKey key entries).Perm (sortByKey key others) :=
    (sortByKey_perm key entries).trans
      (perm.trans (sortByKey_perm key others).symm)
  apply List.Perm.eq_of_pairwise _ (pairwise_sortByKey key entries)
    (pairwise_sortByKey key others) samePermutation
  intro left right leftMember rightMember le ge
  have inEntries : left ∈ entries := (sortByKey_perm key entries).mem_iff.1 leftMember
  have inOthers : right ∈ others := (sortByKey_perm key others).mem_iff.1 rightMember
  exact List.inj_on_of_nodup_map distinct inEntries (perm.mem_iff.2 inOthers)
    (String.le_antisymm le ge)

/-! ## What determines a sorted list -/

theorem key_head_le_of_mem
    {key : α → String} {first entry : α} {rest : List α}
    (sorted : (first :: rest).Pairwise fun left right => key left ≤ key right)
    (member : entry ∈ first :: rest) :
    key first ≤ key entry := by
  rcases List.mem_cons.1 member with rfl | inRest
  · exact String.le_refl _
  · exact (List.pairwise_cons.1 sorted).1 entry inRest

theorem mem_iff_of_filter_eq
    {key : α → String} {entries others : List α}
    (sameClasses : ∀ wanted,
      entries.filter (fun entry => key entry = wanted) =
        others.filter fun entry => key entry = wanted)
    (entry : α) :
    entry ∈ entries ↔ entry ∈ others := by
  have inClass : ∀ list : List α,
      entry ∈ list ↔ entry ∈ list.filter fun other => key other = key entry := by
    intro list
    simp [List.mem_filter]
  rw [inClass entries, inClass others, sameClasses (key entry)]

/-- Sorted lists with the same entries of every single key, in the same order,
are equal. -/
theorem eq_of_sorted_of_filter_eq
    {key : α → String} {entries others : List α}
    (sorted : entries.Pairwise fun left right => key left ≤ key right)
    (othersSorted : others.Pairwise fun left right => key left ≤ key right)
    (sameClasses : ∀ wanted,
      entries.filter (fun entry => key entry = wanted) =
        others.filter fun entry => key entry = wanted) :
    entries = others := by
  have sameMembers := mem_iff_of_filter_eq sameClasses
  induction entries generalizing others with
  | nil =>
      cases others with
      | nil => rfl
      | cons first rest =>
          exact absurd ((sameMembers first).2 List.mem_cons_self) List.not_mem_nil
  | cons first rest inductionHypothesis =>
      cases others with
      | nil => exact absurd ((sameMembers first).1 List.mem_cons_self) List.not_mem_nil
      | cons otherFirst otherRest =>
          have le : key first ≤ key otherFirst :=
            key_head_le_of_mem sorted ((sameMembers otherFirst).2 List.mem_cons_self)
          have ge : key otherFirst ≤ key first :=
            key_head_le_of_mem othersSorted ((sameMembers first).1 List.mem_cons_self)
          have sameKey : key otherFirst = key first := String.le_antisymm ge le
          -- The first entries of their common class are the heads of both lists.
          have sameFirst : first = otherFirst := by
            have headClass := sameClasses (key first)
            simp only [List.filter_cons, sameKey, decide_true, if_true] at headClass
            exact (List.cons.inj headClass).1
          subst sameFirst
          have tailClasses : ∀ wanted,
              rest.filter (fun entry => key entry = wanted) =
                otherRest.filter fun entry => key entry = wanted := by
            intro wanted
            by_cases here : key first = wanted
            · simpa [List.filter_cons, here] using sameClasses wanted
            · simpa [List.filter_cons, here] using sameClasses wanted
          have sameRest := inductionHypothesis (List.pairwise_cons.1 sorted).2
            (List.pairwise_cons.1 othersSorted).2 tailClasses
            (mem_iff_of_filter_eq tailClasses)
          rw [sameRest]

/-- Sorting what a test leaves is the same as testing what is sorted. -/
theorem filter_sortByKey_comm (key : α → String) (test : α → Bool) (entries : List α) :
    (sortByKey key entries).filter test = sortByKey key (entries.filter test) := by
  have kept := (pairwise_sortByKey key entries).filter test
  apply eq_of_sorted_of_filter_eq kept (pairwise_sortByKey key (entries.filter test))
  intro wanted
  calc ((sortByKey key entries).filter test).filter (fun entry => key entry = wanted)
    _ = ((sortByKey key entries).filter fun entry => key entry = wanted).filter test :=
      List.filter_comm ..
    _ = (entries.filter fun entry => key entry = wanted).filter test := by
      rw [filter_sortByKey]
    _ = (entries.filter test).filter (fun entry => key entry = wanted) :=
      List.filter_comm ..
    _ = (sortByKey key (entries.filter test)).filter fun entry => key entry = wanted := by
      rw [filter_sortByKey]

theorem map_sortByKey
    {source : α → β} {key : α → String} {otherKey : β → String} (entries : List α)
    (sameKeys : ∀ entry ∈ entries, otherKey (source entry) = key entry) :
    (sortByKey key entries).map source = sortByKey otherKey (entries.map source) := by
  apply List.map_mergeSort
  intro left leftMember right rightMember
  rw [sameKeys left leftMember, sameKeys right rightMember]

/-- Lists whose entries are related position by position are sorted side by side
if related entries have the same key. -/
theorem forall₂_sortByKey
    {related : α → β → Prop} {key : α → String} {otherKey : β → String}
    {entries : List α} {others : List β}
    (sameKeys : ∀ entry other, related entry other → key entry = otherKey other)
    (sideBySide : List.Forall₂ related entries others) :
    List.Forall₂ related (sortByKey key entries) (sortByKey otherKey others) := by
  -- Both sorted lists are components of one sorted list of pairs.
  obtain ⟨sameLength, pairs⟩ := List.forall₂_iff_zip.1 sideBySide
  have relatedPairs : ∀ pair ∈ entries.zip others, related pair.1 pair.2 :=
    fun pair member => pairs member
  have first :
      (sortByKey (fun pair => key pair.1) (entries.zip others)).map Prod.fst =
        sortByKey key ((entries.zip others).map Prod.fst) := by
    apply map_sortByKey
    intro pair _
    rfl
  have second :
      (sortByKey (fun pair => key pair.1) (entries.zip others)).map Prod.snd =
        sortByKey otherKey ((entries.zip others).map Prod.snd) := by
    apply map_sortByKey
    intro pair member
    exact (sameKeys pair.1 pair.2 (relatedPairs pair member)).symm
  rw [List.map_fst_zip (Nat.le_of_eq sameLength)] at first
  rw [List.map_snd_zip (Nat.le_of_eq sameLength.symm)] at second
  rw [← first, ← second, List.forall₂_map_left_iff, List.forall₂_map_right_iff,
    List.forall₂_same]
  intro pair member
  exact relatedPairs pair ((sortByKey_perm _ _).mem_iff.1 member)

end TypedSql
