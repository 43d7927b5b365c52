/-!
# Catalogs

A catalog holds entries in strictly ascending order of their names, compared by
code point, so no two entries share a name. Inserting an entry replaces the one
of the same name.

The main statements are the two look-up equations of an insertion, and that the
entries are determined by the look-ups.
-/

namespace TypedSql

/-- Entries in strictly ascending order of their names. -/
structure Catalog {α : Type} (name : α → String) where
  entries : List α
  ascending : entries.Pairwise fun left right => name left < name right
  deriving DecidableEq

namespace Catalog

variable {α : Type} {name : α → String}

def empty : Catalog name :=
  ⟨[], .nil⟩

instance : EmptyCollection (Catalog name) :=
  ⟨empty⟩

instance : Inhabited (Catalog name) :=
  ⟨empty⟩

/-- Puts an entry at its place among ascending entries, replacing one of the
same name. -/
def insertEntry (name : α → String) (entry : α) : List α → List α
  | [] => [entry]
  | first :: rest =>
      if name entry < name first then
        entry :: first :: rest
      else if name first < name entry then
        first :: insertEntry name entry rest
      else
        entry :: rest

theorem mem_insertEntry {entry other : α} {entries : List α}
    (member : other ∈ insertEntry name entry entries) : other = entry ∨ other ∈ entries := by
  induction entries with
  | nil => exact .inl (List.mem_singleton.1 member)
  | cons first rest ih =>
      unfold insertEntry at member
      split at member
      · exact List.mem_cons.1 member
      · split at member
        · rcases List.mem_cons.1 member with rfl | inRest
          · exact .inr List.mem_cons_self
          · exact (ih inRest).imp_right (List.mem_cons_of_mem first)
        · exact (List.mem_cons.1 member).imp_right (List.mem_cons_of_mem first)

theorem ascending_insertEntry (entry : α) {entries : List α}
    (ascending : entries.Pairwise fun left right => name left < name right) :
    (insertEntry name entry entries).Pairwise fun left right => name left < name right := by
  induction entries with
  | nil => exact List.pairwise_singleton _ _
  | cons first rest ih =>
      obtain ⟨before, restAscending⟩ := List.pairwise_cons.1 ascending
      unfold insertEntry
      split
      · rename_i less
        refine List.pairwise_cons.2 ⟨fun other member => ?_, ascending⟩
        rcases List.mem_cons.1 member with rfl | inRest
        · exact less
        · exact String.lt_trans less (before other inRest)
      · rename_i notLess
        split
        · rename_i greater
          refine List.pairwise_cons.2 ⟨fun other member => ?_, ih restAscending⟩
          rcases mem_insertEntry member with rfl | inRest
          · exact greater
          · exact before other inRest
        · rename_i notGreater
          have same : name entry = name first :=
            String.le_antisymm (String.not_lt.1 notGreater) (String.not_lt.1 notLess)
          exact List.pairwise_cons.2 ⟨fun other member => same ▸ before other member, restAscending⟩

/-- Adds an entry, replacing the entry of the same name. -/
def insert (catalog : Catalog name) (entry : α) : Catalog name :=
  ⟨insertEntry name entry catalog.entries, ascending_insertEntry entry catalog.ascending⟩

/-- Adds entries one after the other, so that the last one of a name stays. -/
def insertMany (catalog : Catalog name) (entries : List α) : Catalog name :=
  entries.foldl insert catalog

/-- The catalog of a list of entries; the last one of a name stays. -/
def ofList (entries : List α) : Catalog name :=
  empty.insertMany entries

/-- The entry of a name. -/
def find? (catalog : Catalog name) (wanted : String) : Option α :=
  catalog.entries.find? fun entry => name entry = wanted

def size (catalog : Catalog name) : Nat :=
  catalog.entries.length

def isEmpty (catalog : Catalog name) : Bool :=
  catalog.entries.isEmpty

/-- The names in ascending order. -/
def names (catalog : Catalog name) : List String :=
  catalog.entries.map name

theorem name_eq_of_find? {catalog : Catalog name} {wanted : String} {entry : α}
    (found : catalog.find? wanted = some entry) : name entry = wanted := by
  simpa only [decide_eq_true_eq] using List.find?_some found

theorem mem_of_find? {catalog : Catalog name} {wanted : String} {entry : α}
    (found : catalog.find? wanted = some entry) : entry ∈ catalog.entries :=
  List.mem_of_find?_eq_some found

theorem find?_insertEntry_self (entry : α) (entries : List α) :
    (insertEntry name entry entries).find? (fun other => name other = name entry) = some entry := by
  induction entries with
  | nil => simp [insertEntry]
  | cons first rest ih =>
      unfold insertEntry
      split
      · simp
      · split
        · rename_i greater
          have different : name first ≠ name entry := fun same =>
            String.lt_irrefl (name first) (same ▸ greater)
          simp [different, ih]
        · simp

theorem find?_insertEntry_of_ne {entry : α} {wanted : String} (different : wanted ≠ name entry)
    (entries : List α) :
    (insertEntry name entry entries).find? (fun other => name other = wanted) =
      entries.find? fun other => name other = wanted := by
  induction entries with
  | nil => simp [insertEntry, different.symm]
  | cons first rest ih =>
      unfold insertEntry
      split
      · simp [different.symm]
      · rename_i notLess
        split
        · simp only [List.find?_cons, ih]
        · rename_i notGreater
          have same : name entry = name first :=
            String.le_antisymm (String.not_lt.1 notGreater) (String.not_lt.1 notLess)
          simp [← same, different.symm]

@[simp]
theorem find?_insert_self (catalog : Catalog name) (entry : α) :
    (catalog.insert entry).find? (name entry) = some entry :=
  find?_insertEntry_self entry catalog.entries

theorem find?_insert_of_ne (catalog : Catalog name) {entry : α} {wanted : String}
    (different : wanted ≠ name entry) :
    (catalog.insert entry).find? wanted = catalog.find? wanted :=
  find?_insertEntry_of_ne different catalog.entries

@[simp]
theorem find?_empty (wanted : String) : (empty : Catalog name).find? wanted = none :=
  rfl

theorem find?_of_mem {catalog : Catalog name} {entry : α} (member : entry ∈ catalog.entries) :
    catalog.find? (name entry) = some entry := by
  obtain ⟨entries, ascending⟩ := catalog
  change entries.find? (fun other => name other = name entry) = some entry
  induction entries with
  | nil => exact nomatch member
  | cons first rest ih =>
      obtain ⟨before, restAscending⟩ := List.pairwise_cons.1 ascending
      rcases List.mem_cons.1 member with rfl | inRest
      · simp
      · have different : name first ≠ name entry := fun same =>
          String.lt_irrefl (name first) (same ▸ before entry inRest)
        simp only [List.find?_cons, different, decide_false]
        exact ih restAscending inRest

theorem find?_eq_some_iff {catalog : Catalog name} {wanted : String} {entry : α} :
    catalog.find? wanted = some entry ↔ entry ∈ catalog.entries ∧ name entry = wanted :=
  ⟨fun found => ⟨mem_of_find? found, name_eq_of_find? found⟩,
    fun ⟨member, same⟩ => same ▸ find?_of_mem member⟩

theorem eq_of_mem_iff {entries others : List α}
    (ascending : entries.Pairwise fun left right => name left < name right)
    (othersAscending : others.Pairwise fun left right => name left < name right)
    (sameMembers : ∀ entry, entry ∈ entries ↔ entry ∈ others) : entries = others := by
  have distinct {list : List α}
      (sorted : list.Pairwise fun left right => name left < name right) : list.Nodup :=
    sorted.imp fun {left right} (less : name left < name right) (same : left = right) =>
      String.lt_irrefl (name right) (same ▸ less)
  exact List.Perm.eq_of_pairwise
    (fun left right _ _ less greater => absurd (String.lt_trans less greater) (String.lt_irrefl _))
    ascending othersAscending
    ((List.perm_ext_iff_of_nodup (distinct ascending) (distinct othersAscending)).2 sameMembers)

/-- Catalogs with the same look-ups are equal. -/
theorem ext_find? {catalog other : Catalog name}
    (same : ∀ wanted, catalog.find? wanted = other.find? wanted) : catalog = other := by
  have sameMembers : ∀ entry, entry ∈ catalog.entries ↔ entry ∈ other.entries := fun entry => by
    constructor
    · exact fun member => mem_of_find? ((same _).symm.trans (find?_of_mem member))
    · exact fun member => mem_of_find? ((same _).trans (find?_of_mem member))
  have sameEntries := eq_of_mem_iff catalog.ascending other.ascending sameMembers
  obtain ⟨entries, ascending⟩ := catalog
  obtain ⟨others, othersAscending⟩ := other
  cases sameEntries
  rfl

end Catalog

end TypedSql
