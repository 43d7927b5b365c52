import TypedSql.Proofs.RowReuse

/-!
# References to enum types

Types are referred to by name. The name that a column of a stamped schema refers
to is the name of the enum type that is made of this very column, and result
columns of the same table and name refer to the same enum type. Conversely every
type of a struct field is accounted for.
-/

namespace TypedSql

theorem columnEnum_mem_schemaEnums
    (settings : Settings) {schema : Schema} {table : Table} {column : Column}
    (inSchema : table ∈ schema.entries) (inTable : column ∈ table.columns)
    (isEnum : column.isEnum = true) :
    columnEnum settings table.name column ∈ schemaEnums settings schema := by
  have inEnums : columnEnum settings table.name column ∈ tableEnums settings table :=
    List.mem_map.2 ⟨column, List.mem_filter.2 ⟨inTable, isEnum⟩, rfl⟩
  exact List.mem_flatMap.2 ⟨table, inSchema, inEnums⟩

/-- The type of a field for a column is the target of an override that applies to
the column, the target type of its native type, the type that holds anything, or
one of the enum types. -/
def TypeAccounted
    (settings : Settings) (enums : List EnumDecl) (column : Column) (typeName : String) :
    Prop :=
  (∃ rule ∈ settings.overrides, rule.appliesTo column = true ∧ rule.target = typeName) ∨
    (NativeType.ofName column.nativeType).target? column.isNullable = some typeName ∨
    typeName = anyType ∨
    ∃ decl ∈ enums, decl.name = typeName

theorem typeAccounted_of_stamped
    (settings : Settings) {schema : Schema} {table : Table} {column : Column}
    (stamped : table.Stamped) (inSchema : table ∈ schema.entries)
    (inTable : column ∈ table.columns) :
    TypeAccounted settings (schemaEnums settings schema) column
      (typeSource settings column).typeName := by
  rcases typeSource_cases settings column with
    ⟨rule, member, applies, source⟩ | ⟨_, isEnum, source⟩ | ⟨_, target, targeted, source⟩ |
      ⟨_, _, source⟩
  · rw [source]
    exact .inl ⟨rule, member, applies, rfl⟩
  · -- The stamp makes the table of the column the one whose enum types are made.
    rw [source, stamped column inTable]
    exact .inr (.inr (.inr
      ⟨_, columnEnum_mem_schemaEnums settings inSchema inTable isEnum, rfl⟩))
  · rw [source]
    exact .inr (.inl targeted)
  · rw [source]
    exact .inr (.inr (.inl rfl))

theorem accounted_tableStruct
    (settings : Settings) {schema : Schema} {table : Table}
    (stamped : table.Stamped) (inSchema : table ∈ schema.entries) :
    List.Forall₂
      (fun column (field : FieldDecl) =>
        TypeAccounted settings (schemaEnums settings schema) column field.typeName)
      table.columns (tableStruct settings table).fields := by
  rw [fields_tableStruct, tableFields, List.forall₂_map_right_iff, List.forall₂_same]
  intro column inTable
  exact typeAccounted_of_stamped settings stamped inSchema inTable

theorem typeName_field_tableStruct
    (settings : Settings) {table : Table} {position : Nat}
    (inTable : position < table.columns.length) :
    ((tableStruct settings table).fields[position]?).map FieldDecl.typeName =
      some (typeSource settings table.columns[position]).typeName := by
  rw [fields_tableStruct, ← List.getElem?_map, typeNames_tableFields, List.getElem?_map,
    List.getElem?_eq_getElem inTable]
  rfl

theorem columnTypes_of_bound
    {settings : Settings} {structs : List StructDecl} {query : Query}
    {method : QueryMethod} {position : Nat}
    (ret : method.ret = retValue settings structs query (resultColumns settings query))
    (inRow : position < query.columns.length) :
    method.ret.columnTypes[position]? =
      some (typeSource settings query.columns[position]).typeName := by
  rw [ret, columnTypes_retValue, typeNames_resultColumns, List.getElem?_map,
    List.getElem?_eq_getElem inRow]
  rfl

/-- No reference to an enum type dangles: fields of enum columns and result
columns of the same table and name refer to the enum type made of the column,
and every type of a struct field is accounted for. -/
theorem enum_references_resolve
    {settings : Settings} {schema : Schema} {slots : List (Option Query)}
    {output : Outcome}
    (stamped : schema.Stamped)
    (generated : generate settings schema slots = .ok output) :
    (∀ table ∈ schema.entries, ∃ decl,
      (output.structs.filter fun other => other.table = some table.name) = [decl] ∧
      ∀ (position : Nat) (inTable : position < table.columns.length),
        table.columns[position].isEnum = true →
        ¬ settings.Overrides table.columns[position] →
        (decl.fields[position]?).map FieldDecl.typeName =
            some (columnEnum settings table.name table.columns[position]).name ∧
          columnEnum settings table.name table.columns[position] ∈ output.enums) ∧
    (∀ table ∈ schema.entries, ∀ source ∈ table.columns, source.isEnum = true →
      ∀ query, some query ∈ slots → query.isBound = true →
      ∃ method ∈ output.queries,
        Yields (bindQuery settings output.structs query) (some method)
          (queryFindings settings query) ∧
        ∀ (position : Nat) (inRow : position < query.columns.length),
          query.columns[position].table = table.name →
          query.columns[position].name = source.name →
          query.columns[position].isEnum = true →
          ¬ settings.Overrides query.columns[position] →
          method.ret.columnTypes[position]? =
            some (columnEnum settings table.name source).name) ∧
    ∀ decl ∈ output.structs, ∃ table ∈ schema.entries, decl.table = some table.name ∧
      List.Forall₂
        (fun column (field : FieldDecl) =>
          TypeAccounted settings output.enums column field.typeName)
        table.columns decl.fields := by
  have structs := structs_of_generate generated
  have enums := enums_of_generate generated
  refine ⟨?_, ?_, ?_⟩
  · intro table inSchema
    rw [structs, enums]
    refine ⟨tableStruct settings table, filter_schemaStructs_of_mem settings inSchema, ?_⟩
    intro position inTable isEnum free
    have inColumns : table.columns[position] ∈ table.columns := List.getElem_mem inTable
    constructor
    · rw [typeName_field_tableStruct settings inTable, typeSource_of_isEnum isEnum free,
        stamped table inSchema _ inColumns]
      rfl
    · exact columnEnum_mem_schemaEnums settings inSchema inColumns isEnum
  · intro table inSchema source inTable isEnum query inSlots bound
    obtain ⟨method, member, yields, ret⟩ := exists_method_of_generate generated inSlots bound
    refine ⟨method, member, yields, ?_⟩
    intro position inRow sameTable sameName rowEnum free
    rw [columnTypes_of_bound ret inRow, typeSource_of_isEnum rowEnum free, sameTable, sameName]
    rfl
  · intro decl member
    rw [structs] at member
    obtain ⟨table, inSchema, rfl⟩ := mem_schemaStructs_iff.1 member
    rw [enums]
    exact ⟨table, inSchema, rfl,
      accounted_tableStruct settings (stamped table inSchema) inSchema⟩

/-- The status of the devices is the third column of the table, of its struct
and of the rows of the query, and its native type is spelled in two ways. -/
theorem deviceStatus_resolves :
    deviceSchema.Stamped ∧
      generate deviceSettings deviceSchema [some listDevices] =
        .ok (passOutcome deviceSettings deviceSchema [listDevices]) ∧
      (columnEnum deviceSettings "app_devices" deviceTable.columns[2]).name =
        "DevicesStatusType" ∧
      columnEnum deviceSettings "app_devices" deviceTable.columns[2] ∈
        schemaEnums deviceSettings deviceSchema ∧
      (∃ decl ∈ schemaStructs deviceSettings deviceSchema,
        (decl.fields[2]?).map FieldDecl.typeName = some "DevicesStatusType") ∧
      ∃ method ∈ (passOutcome deviceSettings deviceSchema [listDevices]).queries,
        method.ret.columnTypes[2]? = some "DevicesStatusType" := by
  have generated := generate_filled deviceSettings deviceSchema [listDevices]
  have inSchema : deviceTable ∈ deviceSchema.entries := by decide
  have free (column : Column) : ¬ deviceSettings.Overrides column := by
    intro overrides
    obtain ⟨rule, member, _⟩ := overrides
    exact nomatch member
  have named :
      (columnEnum deviceSettings "app_devices" deviceTable.columns[2]).name =
        "DevicesStatusType" := by decide
  obtain ⟨fields, rows, _⟩ := enum_references_resolve stamped_deviceSchema generated
  obtain ⟨decl, only, resolved⟩ := fields deviceTable inSchema
  obtain ⟨fieldType, inEnums⟩ := resolved 2 (by decide) (by decide) (free _)
  obtain ⟨method, member, _, types⟩ := rows deviceTable inSchema deviceTable.columns[2]
    (by decide) (by decide) listDevices List.mem_cons_self (by decide)
  have inStructs : decl ∈ schemaStructs deviceSettings deviceSchema :=
    (List.mem_filter.1 (only ▸ List.mem_cons_self)).1
  have rowType := types 2 (by decide) (by decide) (by decide) (by decide) (free _)
  exact ⟨stamped_deviceSchema, generated, named, inEnums,
    ⟨decl, inStructs, fieldType.trans (congrArg some named)⟩,
    method, member, rowType.trans (congrArg some named)⟩

end TypedSql
