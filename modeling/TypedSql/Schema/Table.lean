import TypedSql.Schema.Column

/-!
# Tables

A table has a name and columns in the order of their declaration. A table is
stamped when each of its columns carries its name.
-/

namespace TypedSql

/-- A table: its name and its columns in the order of their declaration. -/
structure Table where
  name : String
  columns : List Column := []
  deriving DecidableEq, Inhabited

namespace Table

/-- Adds a column behind the others and stamps it with the name of the table. -/
def withColumn (table : Table) (column : Column) : Table :=
  { table with columns := table.columns ++ [column.inTable table.name] }

def column? (table : Table) (name : String) : Option Column :=
  table.columns.find? fun column => column.name = name

/-- Puts the name of the table on all of its columns. -/
def stamp (table : Table) : Table :=
  { table with columns := table.columns.map fun column => column.inTable table.name }

/-- Every column carries the name of the table. -/
def Stamped (table : Table) : Prop :=
  ∀ column ∈ table.columns, column.table = table.name

instance (table : Table) : Decidable table.Stamped :=
  inferInstanceAs (Decidable (∀ column ∈ table.columns, column.table = table.name))

@[simp]
theorem name_stamp (table : Table) : table.stamp.name = table.name :=
  rfl

theorem stamped_stamp (table : Table) : table.stamp.Stamped := by
  intro column member
  obtain ⟨_, _, rfl⟩ := List.mem_map.1 member
  rfl

theorem stamp_eq_self_iff {table : Table} : table.stamp = table ↔ table.Stamped := by
  constructor
  · exact fun same => same ▸ stamped_stamp table
  · intro stamped
    have unchanged : ∀ column ∈ table.columns, column.inTable table.name = id column :=
      fun column member => by simp only [Column.inTable, ← stamped column member, id]
    simp only [stamp, List.map_congr_left unchanged, List.map_id]

theorem Stamped.withColumn {table : Table} (stamped : table.Stamped) (column : Column) :
    (table.withColumn column).Stamped := by
  intro other member
  rcases List.mem_append.1 member with old | new
  · exact stamped other old
  · rw [List.mem_singleton.1 new]
    rfl

end Table

end TypedSql
