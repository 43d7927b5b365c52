import TypedSql.Proofs.SchemaInsertion
import TypedSql.Typing.TableStruct

/-!
# The structs of the tables of a schema

The structs are those of the tables, one for each of them, although they are
sorted by other names than the tables.
-/

namespace TypedSql

@[simp]
theorem table_tableStruct (settings : Settings) (table : Table) :
    (tableStruct settings table).table = some table.name :=
  rfl

theorem fields_tableStruct (settings : Settings) (table : Table) :
    (tableStruct settings table).fields = tableFields settings table :=
  rfl

theorem sameFields_iff {decl other : StructDecl} :
    decl.sameFields other = true ↔
      decl.table = other.table ∧
        decl.fields.map FieldDecl.shape = other.fields.map FieldDecl.shape := by
  rw [StructDecl.sameFields, Bool.and_eq_true, decide_eq_true_eq, decide_eq_true_eq]

theorem mem_schemaStructs_iff
    {settings : Settings} {schema : Schema} {decl : StructDecl} :
    decl ∈ schemaStructs settings schema ↔
      ∃ table ∈ schema.entries, tableStruct settings table = decl := by
  rw [schemaStructs, (sortByKey_perm _ _).mem_iff, List.mem_map]

/-- Exactly one struct belongs to a table of the schema. -/
theorem filter_schemaStructs_of_mem
    (settings : Settings) {schema : Schema} {table : Table}
    (member : table ∈ schema.entries) :
    ((schemaStructs settings schema).filter fun decl => decl.table = some table.name) =
      [tableStruct settings table] := by
  have unsorted :
      ((schema.entries.map (tableStruct settings)).filter
        fun decl => decl.table = some table.name) = [tableStruct settings table] := by
    rw [List.filter_map]
    have sameTest :
        ((fun decl : StructDecl => decide (decl.table = some table.name)) ∘
          tableStruct settings) = fun other : Table => decide (other.name = table.name) := by
      funext other
      simp
    rw [sameTest, Catalog.filter_entries_of_mem member, List.map_singleton]
  apply List.perm_singleton.1
  rw [← unsorted]
  exact (sortByKey_perm _ _).filter _

end TypedSql
