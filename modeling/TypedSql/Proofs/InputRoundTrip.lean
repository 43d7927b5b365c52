import TypedSql.Proofs.JsonRecords
import TypedSql.Query.Json

/-!
# Written inputs are read back

Columns, tables, queries and settings are faithful: what is written of them is read
back unchanged. Overrides are written without a mark of their kind. Their kind is
known from the keys, as an override of a native type never gives a table.
-/

namespace TypedSql

/-! ## Columns and tables -/

theorem Column.faithful : Faithful Column.read Column.toJson :=
  RecordFormat.faithful (by decide) fun column =>
    .default "name" (.option .text nofun) column.label <|
    .mandatory "native_type" .text column.nativeType <|
    .default "not_null" .flag column.notNull <|
    .default "table" .text column.table <|
    .default "enum_values" (.list .text) column.enumValues <|
    .nil column

theorem Table.faithful : Faithful Table.read Table.toJson :=
  RecordFormat.faithful (by decide) fun table =>
    .mandatory "name" .text table.name <|
    .mandatory "columns" (.list Column.faithful) table.columns <|
    .nil table

/-! ## Queries -/

theorem Command.faithful : Faithful Command.read Command.toJson where
  readsBack command := by
    rw [toJson, Json.draft, read, readMarker, ofMarker?_marker]
  numberless _ := rfl

theorem Expansion.faithful : Faithful Expansion.read Expansion.toJson :=
  RecordFormat.faithful (by decide) fun mark =>
    .mandatory "placeholder" .text mark.placeholder <|
    .nil mark

theorem Param.faithful : Faithful Param.read Param.toJson :=
  RecordFormat.faithful (by decide) fun param =>
    .mandatory "name" .text param.name <|
    .mandatory "type_name" .text param.typeName <|
    .default "like_in" (.option Expansion.faithful nofun) param.expansion <|
    .nil param

theorem QueryAnnotations.faithful : Faithful QueryAnnotations.read QueryAnnotations.toJson :=
  RecordFormat.faithful (by decide) fun annotations =>
    .default "row_struct_name" (.option .text nofun) annotations.rowStructName <|
    .nil annotations

theorem Query.faithful : Faithful Query.read Query.toJson :=
  RecordFormat.faithful (by decide) fun query =>
    .default "name" .text query.name <|
    .default "cmd" (.option Command.faithful nofun) query.command <|
    .default "filename" .text query.filename <|
    .mandatory "sql" .text query.sql <|
    .default "params" (.list Param.faithful) query.params <|
    .default "columns" (.list Column.faithful) query.columns <|
    .default "meta" QueryAnnotations.faithful query.annotations <|
    .nil query

/-! ## Overrides -/

namespace TypeOverride

theorem readMembers_of_writes_column
    {members : List (String × Json)} {table column target : String}
    (writes : RecordFormat.Writes columnFormat.fields columnFormat.initial members
      (table, column, target)) :
    readMembers (Json.draftMembers members) = .ok (forColumn table column target) := by
  rw [readMembers, writes.readMembers_eq_ok (by decide)]

/-- Members that give an override of a native type give no table, so reading them
as an override of a column fails. -/
theorem readMembers_of_writes_type
    {members : List (String × Json)} {nativeType target : String} {nullable : Bool}
    (writes : RecordFormat.Writes typeFormat.fields typeFormat.initial members
      (nativeType, nullable, target)) :
    readMembers (Json.draftMembers members) = .ok (forType nativeType nullable target) := by
  obtain ⟨field, member, required, named⟩ :
      ∃ field ∈ columnFormat.fields, field.required = true ∧ field.name = "table" :=
    ⟨_, List.mem_cons_self, rfl, rfl⟩
  have missing : some field.name ∉ (Json.draftMembers members).map Prod.fst := by
    rw [writes.keys_eq, named]
    decide
  rw [readMembers]
  cases asColumn : columnFormat.readMembers [] columnFormat.initial (Json.draftMembers members) with
  | ok rule =>
      exact absurd asColumn
        (RecordFormat.readMembers_ne_ok_of_missing member required missing List.not_mem_nil _ rule)
  | error fault => rw [writes.readMembers_eq_ok (by decide)]

theorem read_toJson (rule : TypeOverride) : read rule.toJson.draft = .ok rule := by
  have sound := Json.sound_draft rule.toJson
  cases rule with
  | forColumn table column target =>
      rw [toJson, Json.draft] at sound ⊢
      rw [read, if_pos sound]
      apply readMembers_of_writes_column
      exact .mandatory "table" .text table <|
        .mandatory "column" .text column <|
        .mandatory "target_type" .text target <|
        .nil _
  | forType nativeType nullable target =>
      rw [toJson, Json.draft] at sound ⊢
      rw [read, if_pos sound]
      apply readMembers_of_writes_type
      exact .mandatory "db_type" .text nativeType <|
        .default "nullable" .flag nullable <|
        .mandatory "target_type" .text target <|
        .nil _

/-- An override is an object of texts and flags, so it is never too deep. -/
theorem depth_toJson (rule : TypeOverride) : rule.toJson.draft.depth = 1 := by
  cases rule with
  | forColumn table column target => rfl
  | forType nativeType nullable target => rfl

theorem faithful : Faithful Settings.readRule toJson where
  readsBack rule := by
    rw [Settings.readRule, depth_toJson, if_pos (by decide), read_toJson]
  numberless rule := by
    cases rule with
    | forColumn table column target => rfl
    | forType nativeType nullable target => rfl

end TypeOverride

/-! ## Settings -/

theorem ColumnSettings.faithful : Faithful ColumnSettings.read ColumnSettings.toJson :=
  RecordFormat.faithful (by decide) fun settings =>
    .default "rename" (.option .text nofun) settings.rename <|
    .default "json_tag" (.option .text nofun) settings.jsonTag <|
    .default "enum_name" (.option .text nofun) settings.enumName <|
    .nil settings

theorem TableSettings.faithful : Faithful TableSettings.read TableSettings.toJson :=
  RecordFormat.faithful (by decide) fun settings =>
    .default "struct_name" (.option .text nofun) settings.structName <|
    .default "columns" (.nameMap ColumnSettings.faithful) settings.columns <|
    .nil settings

theorem Settings.faithful : Faithful Settings.read Settings.toJson :=
  RecordFormat.faithful (by decide) fun settings =>
    .default "overrides" (.list TypeOverride.faithful) settings.overrides <|
    .default "rename" (.nameMap .text) settings.renames <|
    .default "tables" (.nameMap TableSettings.faithful) settings.tables <|
    .nil settings

theorem Settings.ofText_render (settings : Settings) :
    Settings.ofText settings.toJson.render = .ok settings := by
  rw [Settings.ofText, Settings.faithful.ofText_render, Settings.faithful.readsBack]
  rfl

/-- Queries, settings and overrides are read back from what is written of them. -/
theorem written_inputs_read_back :
    (∀ query : Query, Draft.ofText query.toJson.render = (query.toJson.draft, true) ∧
      Query.read query.toJson.draft = .ok query) ∧
    (∀ settings : Settings, Settings.ofText settings.toJson.render = .ok settings) ∧
    (∀ rule : TypeOverride, Settings.readRule rule.toJson.draft = .ok rule) := by
  refine ⟨?_, Settings.ofText_render, TypeOverride.faithful.readsBack⟩
  intro query
  exact ⟨Query.faithful.ofText_render query, Query.faithful.readsBack query⟩

end TypedSql
