/-!
# Sorting by a text

Lists are put in ascending order of a text key, compared by code point. Entries
with equal keys keep their order.
-/

namespace TypedSql

variable {α : Type}

/-- Sorts by a key in code point order and keeps the order of entries with equal
keys. -/
def sortByKey (key : α → String) (entries : List α) : List α :=
  entries.mergeSort fun left right => decide (key left ≤ key right)

theorem keyLe_trans (key : α → String) (left middle right : α)
    (first : decide (key left ≤ key middle) = true)
    (second : decide (key middle ≤ key right) = true) :
    decide (key left ≤ key right) = true :=
  decide_eq_true (String.le_trans (of_decide_eq_true first) (of_decide_eq_true second))

theorem keyLe_total (key : α → String) (left right : α) :
    (decide (key left ≤ key right) || decide (key right ≤ key left)) = true := by
  simpa only [Bool.or_eq_true, decide_eq_true_eq] using String.le_total (key left) (key right)

theorem sortByKey_perm (key : α → String) (entries : List α) :
    (sortByKey key entries).Perm entries :=
  List.mergeSort_perm entries _

theorem pairwise_sortByKey (key : α → String) (entries : List α) :
    (sortByKey key entries).Pairwise fun left right => key left ≤ key right := by
  have sorted := List.pairwise_mergeSort (keyLe_trans key) (keyLe_total key) entries
  exact sorted.imp fun le => of_decide_eq_true le

end TypedSql
