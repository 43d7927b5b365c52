import TypedSql.Catalog

/-!
# Maps from names

A map from names to values, its pairs in strictly ascending order of the names.
-/

namespace TypedSql

/-- Pairs of a name and a value, strictly ascending by name. -/
abbrev NameMap (α : Type) : Type :=
  Catalog fun pair : String × α => pair.1

namespace NameMap

variable {α : Type}

def set (map : NameMap α) (name : String) (value : α) : NameMap α :=
  map.insert (name, value)

def value? (map : NameMap α) (name : String) : Option α :=
  (map.find? name).map Prod.snd

@[simp]
theorem value?_set_self (map : NameMap α) (name : String) (value : α) :
    value? (set map name value) name = some value := by
  simp only [value?, set]
  rw [Catalog.find?_insert_self map (name, value)]
  rfl

theorem value?_set_of_ne (map : NameMap α) {name other : String} (different : other ≠ name)
    (value : α) : value? (set map name value) other = value? map other := by
  have unchanged : (map.insert (name, value)).find? other = map.find? other :=
    Catalog.find?_insert_of_ne map different
  simp only [value?, set, unchanged]

end NameMap

end TypedSql
