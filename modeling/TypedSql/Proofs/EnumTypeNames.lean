import TypedSql.Proofs.EnumMembers
import TypedSql.Proofs.SchemaInsertion
import TypedSql.Proofs.SnakeCase
import TypedSql.Proofs.TableFieldNames

/-!
# Names of enum types

Each enum column has an enum type of its own, but not always a type name of its
own: the name tells the last word of a table of several words and the words of the
column, and neither the other words of the table nor where the column begins. In
snake case the columns with a common type name are those whose names agree with
the last words of their tables in front.
-/

namespace TypedSql

open Naming (NoSplitId SnakeWords exportWord exported lastWord spellWord words)

/-! ## The words of a type name -/

theorem underscore_notMem_lastWord (table : String) : '_' ∉ (lastWord table).toList := by
  rw [lastWord, String.toList_ofList, Text.afterLast]
  cases last : ((table.toList.splitOn '_').drop 1).getLast? with
  | none => exact List.not_mem_nil
  | some piece =>
      exact Text.notMem_of_mem_splitOn (List.mem_of_mem_drop (List.mem_of_getLast? last))

theorem words_enumSourceName (table column : String) :
    words (enumSourceName table column) = (lastWord table).toList :: words column := by
  have pieces := List.splitOn_append_cons_self_of_not_mem
    (underscore_notMem_lastWord table) column.toList
  rw [words, enumSourceName, String.toList_append, String.toList_append, List.append_assoc]
  exact pieces

/-- The words that make up the name of an enum type: the last one of the table, if
the table has several, and those of the column. -/
def enumWords (table column : String) : List (List Char) :=
  (if lastWord table = "" then [] else [(lastWord table).toList]) ++ words column

theorem toList_exported_enumSourceName (table column : String) :
    (exported (enumSourceName table column)).toList =
      (enumWords table column).flatMap exportWord := by
  rw [exported, String.toList_ofList, words_enumSourceName, enumWords]
  by_cases single : lastWord table = ""
  · rw [if_pos single, single]
    rfl
  · rw [if_neg single]
    rfl

/-- The names of two columns agree with the last words of their tables in front,
where these have some. -/
def SameEnumSource (table column other otherColumn : String) : Prop :=
  (lastWord table = lastWord other ∧ column = otherColumn) ∨
    (lastWord table = "" ∧ lastWord other ≠ "" ∧ column = enumSourceName other otherColumn) ∨
      (lastWord table ≠ "" ∧ lastWord other = "" ∧ otherColumn = enumSourceName table column)

instance (table column other otherColumn : String) :
    Decidable (SameEnumSource table column other otherColumn) :=
  inferInstanceAs (Decidable (_ ∨ _ ∨ _))

theorem words_eq_iff {name other : String} : words name = words other ↔ name = other :=
  ⟨Naming.words_injective, congrArg words⟩

theorem enumWords_eq_iff {table column other otherColumn : String} :
    enumWords table column = enumWords other otherColumn ↔
      SameEnumSource table column other otherColumn := by
  unfold enumWords SameEnumSource
  by_cases single : lastWord table = ""
  · by_cases otherSingle : lastWord other = ""
    · simp [single, otherSingle, words_eq_iff]
    · rw [if_pos single, if_neg otherSingle, List.nil_append, List.singleton_append,
        ← words_enumSourceName, words_eq_iff]
      simp [single, otherSingle, Ne.symm otherSingle]
  · by_cases otherSingle : lastWord other = ""
    · rw [if_neg single, if_pos otherSingle, List.nil_append, List.singleton_append,
        ← words_enumSourceName, words_eq_iff]
      simp [single, otherSingle, eq_comm]
    · rw [if_neg single, if_neg otherSingle, List.singleton_append, List.singleton_append,
        List.cons.injEq, String.toList_inj, words_eq_iff]
      simp [single, otherSingle]

/-! ## The names of the enum types of a schema -/

/-- The settings rename no identifier and name no enum type. -/
structure Settings.KeepsEnumNames (settings : Settings) : Prop where
  identifiers : ∀ name, settings.rename? name = none
  enumTypes : ∀ table column, settings.enumName? table column = none

theorem Settings.KeepsEnumNames.columnEnumName_eq_iff
    {settings : Settings} (keeps : settings.KeepsEnumNames)
    {table column other otherColumn : String} :
    columnEnumName settings table column = columnEnumName settings other otherColumn ↔
      exported (enumSourceName table column) = exported (enumSourceName other otherColumn) := by
  have plain (table column : String) := columnEnumName_of_plain
    (keeps.enumTypes table column) (keeps.identifiers (enumSourceName table column))
  rw [plain, plain]
  exact String.append_left_inj "Type"

theorem exported_enumSourceName_eq_iff {table column other otherColumn : String} :
    exported (enumSourceName table column) = exported (enumSourceName other otherColumn) ↔
      (enumWords table column).flatMap exportWord =
        (enumWords other otherColumn).flatMap exportWord := by
  rw [← String.toList_inj, toList_exported_enumSourceName, toList_exported_enumSourceName]

/-- The enum columns of a schema, each one with the name of its table, in the order
of their enum types. -/
def Schema.enumColumns (schema : Schema) : List (String × String) :=
  schema.entries.flatMap fun table =>
    (table.columns.filter Column.isEnum).map fun column => (table.name, column.name)

theorem names_schemaEnums (settings : Settings) (schema : Schema) :
    (schemaEnums settings schema).map EnumDecl.name =
      schema.enumColumns.map fun pair => columnEnumName settings pair.1 pair.2 := by
  rw [schemaEnums, Schema.enumColumns, List.map_flatMap, List.map_flatMap]
  apply List.flatMap_congr
  intro table _
  rw [tableEnums, List.map_map, List.map_map]
  rfl

/-- Among the enum columns of a schema, those with a common source of their names
belong to different tables. -/
theorem nodup_enumWords_iff
    {schema : Schema}
    (distinct : ∀ table ∈ schema.entries, (table.columns.map Column.name).Nodup) :
    (schema.enumColumns.map fun pair => enumWords pair.1 pair.2).Nodup ↔
      schema.entries.Pairwise fun table other =>
        ∀ column ∈ table.columns, ∀ otherColumn ∈ other.columns,
          column.isEnum = true → otherColumn.isEnum = true →
            ¬ SameEnumSource table.name column.name other.name otherColumn.name := by
  have withinTables : ∀ table ∈ schema.entries,
      ((table.columns.filter Column.isEnum).map fun column =>
        enumWords table.name column.name).Nodup := by
    intro table inSchema
    have names : ((table.columns.filter Column.isEnum).map Column.name).Nodup :=
      (distinct table inSchema).sublist (List.filter_sublist.map Column.name)
    refine (nodup_map_iff_of_eq_iff ?_).2 names
    intro column _ other _
    rw [enumWords, enumWords, List.append_cancel_left_eq, words_eq_iff]
  rw [Schema.enumColumns, List.map_flatMap, List.nodup_flatMap]
  simp only [List.map_map, Function.comp_def]
  rw [and_iff_right withinTables]
  apply List.Pairwise.iff
  intro table other
  simp only [Function.onFun, List.Disjoint, List.mem_map, List.mem_filter]
  constructor
  · intro apart column member otherColumn otherMember isEnum otherIsEnum same
    exact apart ⟨column, ⟨member, isEnum⟩, rfl⟩
      ⟨otherColumn, ⟨otherMember, otherIsEnum⟩, (enumWords_eq_iff.2 same).symm⟩
  · rintro apart pieces ⟨column, ⟨member, isEnum⟩, rfl⟩
      ⟨otherColumn, ⟨otherMember, otherIsEnum⟩, same⟩
    exact apart column member otherColumn otherMember isEnum otherIsEnum
      (enumWords_eq_iff.1 same.symm)

/-- Without names from the settings, the enum types of a schema have pairwise
distinct names exactly if the identifiers of their sources are distinct. In snake
case it is enough that the words of these sources differ in more than `i` and `d`
for `id`. If moreover `d` never follows on `i`, and no table has two columns of one
name, then all names are distinct exactly if no two enum columns of different
tables have a common source. -/
theorem enum_type_names_nodup_iff
    {settings : Settings} (keeps : settings.KeepsEnumNames) (schema : Schema) :
    (((schemaEnums settings schema).map EnumDecl.name).Nodup ↔
      (schema.enumColumns.map fun pair => exported (enumSourceName pair.1 pair.2)).Nodup) ∧
    ((∀ pair ∈ schema.enumColumns, SnakeWords (enumWords pair.1 pair.2)) →
      (((schemaEnums settings schema).map EnumDecl.name).Nodup ↔
        (schema.enumColumns.map fun pair =>
          (enumWords pair.1 pair.2).flatMap spellWord).Nodup)) ∧
    ((∀ pair ∈ schema.enumColumns,
        SnakeWords (enumWords pair.1 pair.2) ∧ NoSplitId (enumWords pair.1 pair.2)) →
      (∀ table ∈ schema.entries, (table.columns.map Column.name).Nodup) →
      (((schemaEnums settings schema).map EnumDecl.name).Nodup ↔
        schema.entries.Pairwise fun table other =>
          ∀ column ∈ table.columns, ∀ otherColumn ∈ other.columns,
            column.isEnum = true → otherColumn.isEnum = true →
              ¬ SameEnumSource table.name column.name other.name otherColumn.name)) := by
  rw [names_schemaEnums]
  refine ⟨?_, ?_, ?_⟩
  · apply nodup_map_iff_of_eq_iff
    intro pair _ other _
    exact keeps.columnEnumName_eq_iff
  · intro snake
    apply nodup_map_iff_of_eq_iff
    intro pair member other otherMember
    rw [keeps.columnEnumName_eq_iff, exported_enumSourceName_eq_iff]
    exact Naming.flatMap_exportWord_eq_iff_of_snakeWords (snake pair member)
      (snake other otherMember)
  · intro plain distinct
    rw [← nodup_enumWords_iff distinct]
    apply nodup_map_iff_of_eq_iff
    intro pair member other otherMember
    rcases plain pair member with ⟨snake, joined⟩
    rcases plain other otherMember with ⟨otherSnake, otherJoined⟩
    rw [keeps.columnEnumName_eq_iff, exported_enumSourceName_eq_iff,
      Naming.flatMap_exportWord_eq_iff_of_snakeWords snake otherSnake]
    constructor
    · exact Naming.eq_of_flatMap_spellWord_eq joined otherJoined
    · intro same
      rw [same]

/-- A table with one enum column, which takes given literals. -/
def statusTable (table column : String) (values : List String) : Table :=
  { name := table,
    columns :=
      [{ label := some "id", nativeType := "int", notNull := true, table },
       { label := some column, nativeType := "enum", notNull := true, table,
         enumValues := values }] }

/-- Three tables whose last words, or columns, tell their enum types apart. -/
def shopSchema : Schema :=
  Catalog.ofList
    [statusTable "shop_orders" "status" ["'open'", "'paid'"],
     statusTable "shop_users" "status" ["'active'", "'banned'"],
     statusTable "devices" "status" ["'on'", "'off'"]]

theorem shopSchema_enum_type_names_nodup :
    Settings.KeepsEnumNames {} ∧
      (∀ pair ∈ shopSchema.enumColumns,
        SnakeWords (enumWords pair.1 pair.2) ∧ NoSplitId (enumWords pair.1 pair.2)) ∧
      (∀ table ∈ shopSchema.entries, (table.columns.map Column.name).Nodup) ∧
      (schemaEnums {} shopSchema).map EnumDecl.name =
        ["StatusType", "OrdersStatusType", "UsersStatusType"] ∧
      ((schemaEnums {} shopSchema).map EnumDecl.name).Nodup := by
  have keeps : Settings.KeepsEnumNames {} := ⟨fun _ => rfl, fun _ _ => rfl⟩
  have plain : ∀ pair ∈ shopSchema.enumColumns,
      SnakeWords (enumWords pair.1 pair.2) ∧ NoSplitId (enumWords pair.1 pair.2) := by
    decide +kernel
  have distinct : ∀ table ∈ shopSchema.entries, (table.columns.map Column.name).Nodup := by
    decide
  refine ⟨keeps, plain, distinct, by decide +kernel, ?_⟩
  rw [(enum_type_names_nodup_iff keeps shopSchema).2.2 plain distinct]
  decide +kernel

/-- Two tables of one word, each with its own kind of status. -/
def statusSchema : Schema :=
  Catalog.ofList
    [statusTable "users" "status" ["'active'", "'banned'"],
     statusTable "devices" "status" ["'on'", "'off'"]]

theorem statusSchema_enum_type_names_not_nodup :
    Settings.KeepsEnumNames {} ∧ statusSchema.Stamped ∧
      (∀ table ∈ statusSchema.entries, (table.columns.map Column.name).Nodup) ∧
      statusSchema.enumColumns = [("devices", "status"), ("users", "status")] ∧
      (schemaEnums {} statusSchema).map EnumDecl.name = ["StatusType", "StatusType"] ∧
      ¬ ((schemaEnums {} statusSchema).map EnumDecl.name).Nodup := by
  have keeps : Settings.KeepsEnumNames {} := ⟨fun _ => rfl, fun _ _ => rfl⟩
  have stamped : statusSchema.Stamped := Schema.stamped_ofList (by decide)
  exact ⟨keeps, stamped, by decide, by decide, by decide +kernel, by decide +kernel⟩

end TypedSql
