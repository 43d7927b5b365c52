import TypedSql.Proofs.PassOutcome
import TypedSql.Proofs.TableStructs

/-!
# Types of columns

A column gets its type from an override, from the category of its native type,
from its enum type, or it may hold anything. The value that a query returns has
the types of its result columns, whatever struct holds them.
-/

namespace TypedSql

/-! ## Where types come from -/

/-- Some override applies to the column. -/
def Settings.Overrides (settings : Settings) (column : Column) : Prop :=
  ∃ rule ∈ settings.overrides, rule.appliesTo column = true

theorem override?_eq_none_iff {settings : Settings} {column : Column} :
    settings.override? column = none ↔ ¬ settings.Overrides column := by
  rw [Settings.override?, Option.map_eq_none_iff, List.find?_eq_none, Settings.Overrides]
  constructor
  · intro none overrides
    obtain ⟨rule, member, applies⟩ := overrides
    exact none rule member applies
  · intro none rule member applies
    exact none ⟨rule, member, applies⟩

theorem exists_rule_of_override?
    {settings : Settings} {column : Column} {target : String}
    (overridden : settings.override? column = some target) :
    ∃ rule ∈ settings.overrides, rule.appliesTo column = true ∧ rule.target = target := by
  obtain ⟨rule, found, same⟩ := Option.map_eq_some_iff.1 overridden
  exact ⟨rule, List.mem_of_find?_eq_some found, List.find?_some found, same⟩

theorem mem_categories_of_lookup
    {name : String} {category : NativeType}
    (known : NativeType.categories.lookup name = some category) :
    (name, category) ∈ NativeType.categories := by
  obtain ⟨before, after, listed, _⟩ := List.lookup_eq_some_iff.1 known
  rw [listed]
  exact List.mem_append_right before List.mem_cons_self

/-- The categories and the test for enum columns agree on every native type. -/
theorem ofName_eq_enumeration_iff {column : Column} :
    NativeType.ofName column.nativeType = .enumeration ↔ column.isEnum = true := by
  have lowered : Text.lowerLatin "enum" = "enum" := by decide
  rw [Column.isEnum, Text.sameLatin, decide_eq_true_eq, lowered]
  constructor
  · intro classified
    unfold NativeType.ofName at classified
    cases known : NativeType.categories.lookup (Text.lowerLatin column.nativeType) with
    | none =>
        rw [known] at classified
        dsimp only at classified
        split at classified <;> exact nomatch classified
    | some category =>
        rw [known] at classified
        dsimp only at classified
        rw [classified] at known
        have listed := mem_categories_of_lookup known
        simpa [NativeType.categories] using listed
  · intro isEnum
    have listed : NativeType.categories.lookup "enum" = some .enumeration := by decide
    rw [NativeType.ofName, isEnum, listed]

theorem typeSource_of_not_overrides
    {settings : Settings} {column : Column} (free : ¬ settings.Overrides column) :
    typeSource settings column = nativeTypeSource settings column := by
  rw [typeSource, override?_eq_none_iff.2 free]

theorem typeSource_of_isEnum
    {settings : Settings} {column : Column}
    (isEnum : column.isEnum = true) (free : ¬ settings.Overrides column) :
    typeSource settings column =
      .enumeration (columnEnumName settings column.table column.name) := by
  have classified := ofName_eq_enumeration_iff.2 isEnum
  rw [typeSource_of_not_overrides free]
  simp only [nativeTypeSource, classified]

theorem targets?_eq_none_iff {category : NativeType} :
    category.targets? = none ↔
      category = .enumeration ∨ ∃ name, category = .unknown name := by
  cases category <;> simp [NativeType.targets?]

section

variable {settings : Settings} {column : Column}

theorem typeSource_of_target?_eq_some
    {target : String} (notEnum : ¬ column.isEnum = true) (free : ¬ settings.Overrides column)
    (targeted : (NativeType.ofName column.nativeType).target? column.isNullable =
      some target) :
    typeSource settings column = .builtin target := by
  rw [typeSource_of_not_overrides free]
  unfold nativeTypeSource
  split
  next classified => exact absurd (ofName_eq_enumeration_iff.1 classified) notEnum
  next => rw [targeted]

theorem typeSource_of_target?_eq_none
    (notEnum : ¬ column.isEnum = true) (free : ¬ settings.Overrides column)
    (untargeted : (NativeType.ofName column.nativeType).target? column.isNullable = none) :
    typeSource settings column = .unknown := by
  rw [typeSource_of_not_overrides free]
  unfold nativeTypeSource
  split
  next classified => exact absurd (ofName_eq_enumeration_iff.1 classified) notEnum
  next => rw [untargeted]

end

/-- The four sources of a type, each with the condition under which it is used. -/
theorem typeSource_cases (settings : Settings) (column : Column) :
    (∃ rule ∈ settings.overrides, rule.appliesTo column = true ∧
        typeSource settings column = .configured rule.target) ∨
      (¬ settings.Overrides column ∧ column.isEnum = true ∧
        typeSource settings column =
          .enumeration (columnEnumName settings column.table column.name)) ∨
      (¬ settings.Overrides column ∧
        ∃ target, (NativeType.ofName column.nativeType).target? column.isNullable =
            some target ∧
          typeSource settings column = .builtin target) ∨
      (¬ settings.Overrides column ∧
        (∃ name, NativeType.ofName column.nativeType = .unknown name) ∧
        typeSource settings column = .unknown) := by
  cases overridden : settings.override? column with
  | some target =>
      obtain ⟨rule, member, applies, rfl⟩ := exists_rule_of_override? overridden
      exact .inl ⟨rule, member, applies, by rw [typeSource, overridden]⟩
  | none =>
      have free := override?_eq_none_iff.1 overridden
      by_cases isEnum : column.isEnum = true
      · exact .inr (.inl ⟨free, isEnum, typeSource_of_isEnum isEnum free⟩)
      · cases targeted : (NativeType.ofName column.nativeType).target? column.isNullable with
        | some target =>
            have source := typeSource_of_target?_eq_some isEnum free targeted
            exact .inr (.inr (.inl ⟨free, target, rfl, source⟩))
        | none =>
            have source := typeSource_of_target?_eq_none isEnum free targeted
            have untargeted := Option.map_eq_none_iff.1 targeted
            have notEnum : NativeType.ofName column.nativeType ≠ .enumeration := fun same =>
              isEnum (ofName_eq_enumeration_iff.1 same)
            have isUnknown := (targets?_eq_none_iff.1 untargeted).resolve_left notEnum
            exact .inr (.inr (.inr ⟨free, isUnknown, source⟩))

/-! ## Types of values -/

/-- The types of the columns of a value: its own type, or those of the fields of
its struct. -/
def MethodValue.columnTypes : MethodValue → List String
  | .absent => []
  | .scalar _ typeName => [typeName]
  | .struct _ decl _ => decl.fields.map FieldDecl.typeName

theorem length_assignAll (namer : Naming.UsedNames) (fields : List (String × String)) :
    (namer.assignAll fields).length = fields.length := by
  induction fields generalizing namer with
  | nil => rfl
  | cons field rest inductionHypothesis =>
      rw [Naming.UsedNames.assignAll, List.length_cons, inductionHypothesis, List.length_cons]

theorem typeNames_itemFields (settings : Settings) (items : List FieldSource) :
    (itemFields settings items).map FieldDecl.typeName = items.map FieldSource.typeName := by
  have sameLength : (itemNames settings items).length = items.length := by
    rw [itemNames, length_assignAll, List.length_map]
  have enough : items.length ≤ (itemNames settings items).length :=
    Nat.le_of_eq sameLength.symm
  calc (itemFields settings items).map FieldDecl.typeName
    _ = (items.zip (itemNames settings items)).map (FieldSource.typeName ∘ Prod.fst) := by
      rw [itemFields, List.map_map]
      rfl
    _ = ((items.zip (itemNames settings items)).map Prod.fst).map FieldSource.typeName := by
      rw [List.map_map]
    _ = items.map FieldSource.typeName := by rw [List.map_fst_zip enough]

theorem typeNames_of_sameFields
    {decl other : StructDecl} (same : decl.sameFields other = true) :
    decl.fields.map FieldDecl.typeName = other.fields.map FieldDecl.typeName := by
  have types := congrArg (List.map Prod.snd) (sameFields_iff.1 same).2
  rw [List.map_map, List.map_map] at types
  exact types

theorem retValue_of_two_le
    (settings : Settings) (structs : List StructDecl) (query : Query)
    {columns : List ResultColumn} (several : 2 ≤ columns.length) :
    retValue settings structs query columns =
      match reusedStruct? settings structs columns with
      | some reused => .struct rowVariable reused false
      | none => .struct rowVariable (rowStruct settings query columns) true := by
  match columns, several with
  | _ :: _ :: _, _ => rfl

/-- A value without rows of several columns needs neither settings nor structs. -/
theorem retValue_of_lt_two
    (settings other : Settings) (structs others : List StructDecl) (query : Query)
    {columns : List ResultColumn} (few : columns.length < 2) :
    retValue settings structs query columns = retValue other others query columns := by
  match columns, few with
  | [], _ => rfl
  | [_], _ => rfl

theorem eq_paramStruct_of_argValue
    {settings : Settings} {method name : String} {params : List Param} {decl : StructDecl}
    (introduced : argValue settings method params = .struct name decl true) :
    decl = paramStruct settings method params := by
  match params with
  | [] => exact nomatch introduced
  | [_] => exact nomatch introduced
  | _ :: _ :: _ =>
      injection introduced with _ made
      exact made.symm

theorem eq_rowStruct_of_retValue
    {settings : Settings} {structs : List StructDecl} {query : Query}
    {columns : List ResultColumn} {name : String} {decl : StructDecl}
    (introduced : retValue settings structs query columns = .struct name decl true) :
    decl = rowStruct settings query columns := by
  match columns with
  | [] => exact nomatch introduced
  | [_] => exact nomatch introduced
  | _ :: _ :: _ =>
      rw [retValue_of_two_le settings structs query (by simp)] at introduced
      split at introduced
      next =>
        injection introduced with _ _ emitted
        exact absurd emitted (by decide)
      next =>
        injection introduced with _ made
        exact made.symm

/-- A returned value has the types of its columns, also when it reuses a struct. -/
theorem columnTypes_retValue
    (settings : Settings) (structs : List StructDecl) (query : Query)
    (columns : List ResultColumn) :
    (retValue settings structs query columns).columnTypes =
      columns.map ResultColumn.typeName := by
  match columns with
  | [] => rfl
  | [_] => rfl
  | first :: second :: rest =>
      rw [retValue_of_two_le settings structs query (by simp)]
      split
      next reused found =>
        obtain ⟨table, _, found⟩ := Option.bind_eq_some_iff.1 found
        have same := List.find?_some found
        rw [MethodValue.columnTypes, typeNames_of_sameFields same, columnFields,
          List.map_map]
        rfl
      next =>
        rw [MethodValue.columnTypes, rowStruct, queryStruct, typeNames_itemFields,
          List.map_map]
        rfl

/-- What does not depend on the positions of the result columns depends on the
columns of the query only. -/
theorem map_resultColumns
    {α : Type} {settings : Settings} {ofResult : ResultColumn → α} {ofColumn : Column → α}
    (same : ∀ column position, ofResult
      (resultColumn column position (typeSource settings column).typeName) = ofColumn column)
    (query : Query) :
    (resultColumns settings query).map ofResult = query.columns.map ofColumn := by
  calc (resultColumns settings query).map ofResult
    _ = query.columns.zipIdx.map (ofColumn ∘ Prod.fst) := by
      rw [resultColumns, List.map_map]
      exact List.map_congr_left fun indexed _ => same indexed.1 indexed.2
    _ = (query.columns.zipIdx.map Prod.fst).map ofColumn := by rw [List.map_map]
    _ = query.columns.map ofColumn := by rw [List.zipIdx_map_fst]

theorem typeNames_resultColumns (settings : Settings) (query : Query) :
    (resultColumns settings query).map ResultColumn.typeName =
      query.columns.map fun column => (typeSource settings column).typeName :=
  map_resultColumns (fun _ _ => rfl) query

theorem tables_resultColumns (settings : Settings) (query : Query) :
    (resultColumns settings query).map ResultColumn.table =
      query.columns.map Column.table :=
  map_resultColumns (fun _ _ => rfl) query

theorem length_resultColumns (settings : Settings) (query : Query) :
    (resultColumns settings query).length = query.columns.length := by
  rw [resultColumns, List.length_map, List.length_zipIdx]

theorem typeNames_tableFields (settings : Settings) (table : Table) :
    (tableFields settings table).map FieldDecl.typeName =
      table.columns.map fun column => (typeSource settings column).typeName := by
  rw [tableFields, List.map_map]
  rfl

end TypedSql
