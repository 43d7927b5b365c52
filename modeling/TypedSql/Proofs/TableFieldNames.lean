import TypedSql.Proofs.SnakeCase
import TypedSql.Proofs.TableStructs

/-!
# Field names of table structs

Unlike the fields of query structs, those of table structs are not numbered: two
columns with one identifier share a field name, as `user_id` and `userID` do. In
snake case this happens only to columns that differ in `i_d` for `id`.
-/

namespace TypedSql

open Naming (NoSplitId SnakeCase exported spelled words)

/-- The settings rename no identifier and no column of the table. -/
structure Settings.KeepsNames (settings : Settings) (table : String) : Prop where
  identifiers : ∀ name, settings.rename? name = none
  columns : ∀ column,
    ((settings.table? table).bind fun entry => entry.rename? column) = none

theorem Settings.KeepsNames.fieldName_eq
    {settings : Settings} {table : String} (keeps : settings.KeepsNames table)
    (column : String) :
    Naming.fieldName settings table column = exported column := by
  rw [Naming.fieldName, keeps.columns column, Option.getD_none, Naming.identifier,
    keeps.identifiers column, Option.getD_none]

theorem names_describeTable
    {settings : Settings} {table : Table} (keeps : settings.KeepsNames table.name)
    (found : Diagnostics) :
    ((describeTable settings table).run found).1.fields.map FieldDecl.name =
      table.columns.map fun column => exported column.name := by
  rw [yields_describeTable settings table found, fields_tableStruct, tableFields, List.map_map]
  apply List.map_congr_left
  intro column _
  exact keeps.fieldName_eq column.name

theorem nodup_map_iff_of_eq_iff
    {α β γ : Type} {image : α → β} {other : α → γ} {entries : List α}
    (sameImages : ∀ entry ∈ entries, ∀ second ∈ entries,
      image entry = image second ↔ other entry = other second) :
    (entries.map image).Nodup ↔ (entries.map other).Nodup := by
  rw [List.Nodup, List.Nodup, List.pairwise_map, List.pairwise_map]
  apply List.Pairwise.iff_of_mem
  intro entry second member secondMember
  exact not_congr (sameImages entry member second secondMember)

/-- Without renames, the fields of a table have pairwise distinct names exactly if
its columns have pairwise distinct identifiers. For columns in snake case it is
enough that their names differ in more than `i_d` for `id`, and so it is enough
that they differ at all if none of them has the words `i` and `d` in a row. -/
theorem table_field_names_nodup_iff
    {settings : Settings} {table : Table} (keeps : settings.KeepsNames table.name)
    (found : Diagnostics) :
    ((((describeTable settings table).run found).1.fields.map FieldDecl.name).Nodup ↔
      (table.columns.map fun column => exported column.name).Nodup) ∧
    ((∀ column ∈ table.columns, SnakeCase column.name) →
      ((((describeTable settings table).run found).1.fields.map FieldDecl.name).Nodup ↔
        (table.columns.map fun column => spelled column.name).Nodup)) ∧
    ((∀ column ∈ table.columns, SnakeCase column.name ∧ NoSplitId (words column.name)) →
      ((((describeTable settings table).run found).1.fields.map FieldDecl.name).Nodup ↔
        (table.columns.map Column.name).Nodup)) := by
  rw [names_describeTable keeps found]
  refine ⟨Iff.rfl, ?_, ?_⟩
  · intro snake
    apply nodup_map_iff_of_eq_iff
    intro column member other otherMember
    exact Naming.exported_eq_iff_of_snakeCase (snake column member) (snake other otherMember)
  · intro plain
    apply nodup_map_iff_of_eq_iff
    intro column member other otherMember
    rcases plain column member with ⟨snake, joined⟩
    rcases plain other otherMember with ⟨otherSnake, otherJoined⟩
    exact (Naming.exported_eq_iff_of_snakeCase snake otherSnake).trans
      (Naming.spelled_eq_iff joined otherJoined)

/-- A table with columns in snake case that are made of nearly the same letters. -/
def visitTable : Table :=
  { name := "visits",
    columns :=
      [{ label := some "user_id", nativeType := "int", table := "visits" },
       { label := some "user", nativeType := "int", table := "visits" },
       { label := some "id_user", nativeType := "int", table := "visits" },
       { label := some "useri_d", nativeType := "int", table := "visits" }] }

theorem visitTable_field_names_nodup :
    Settings.KeepsNames {} visitTable.name ∧
      (∀ column ∈ visitTable.columns,
        SnakeCase column.name ∧ NoSplitId (words column.name)) ∧
      ((describeTable {} visitTable).run []).1.fields.map FieldDecl.name =
        ["UserID", "User", "IDUser", "UseriD"] ∧
      (((describeTable {} visitTable).run []).1.fields.map FieldDecl.name).Nodup := by
  have keeps : Settings.KeepsNames {} visitTable.name := ⟨fun _ => rfl, fun _ => rfl⟩
  have plain : ∀ column ∈ visitTable.columns,
      SnakeCase column.name ∧ NoSplitId (words column.name) := by
    decide +kernel
  refine ⟨keeps, plain, by decide, ?_⟩
  rw [(table_field_names_nodup_iff keeps []).2.2 plain]
  decide

/-- Two columns of one table that are spelled in different ways. -/
def memberTable : Table :=
  { name := "members",
    columns :=
      [{ label := some "user_id", nativeType := "int", notNull := true, table := "members" },
       { label := some "userID", nativeType := "int", notNull := true, table := "members" }] }

theorem memberTable_field_names_not_nodup :
    Settings.KeepsNames {} memberTable.name ∧
      (memberTable.columns.map Column.name).Nodup ∧
      (∀ column ∈ memberTable.columns, column.name ≠ "") ∧
      ¬ (((describeTable {} memberTable).run []).1.fields.map FieldDecl.name).Nodup := by
  exact ⟨⟨fun _ => rfl, fun _ => rfl⟩, by decide, by decide, by decide⟩

end TypedSql
