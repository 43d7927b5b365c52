import TypedSql.Proofs.UnknownTypes

/-!
# The case of native types

The test for enum columns, the categories of native types and the overrides each
compare native types for themselves. Two passes whose native types differ in the
case of Latin letters nevertheless make the same declarations. They report the
same columns, each one in its own spelling.
-/

namespace TypedSql

/-! ## Texts in another case -/

namespace Text

/-- The same character, or the other case of a letter from A to Z. -/
def SameLetter (c d : Char) : Prop :=
  c = d ∨ c.toLower = d ∨ c = d.toLower

instance (c d : Char) : Decidable (SameLetter c d) :=
  inferInstanceAs (Decidable (c = d ∨ c.toLower = d ∨ c = d.toLower))

/-- Texts that differ at most in the case of the letters A to Z. -/
def Recased (text other : String) : Prop :=
  List.Forall₂ SameLetter text.toList other.toList

instance (text other : String) : Decidable (Recased text other) :=
  decidable_of_iff
    (text.toList.length = other.toList.length ∧
      ∀ pair ∈ text.toList.zip other.toList, SameLetter pair.1 pair.2)
    (by rw [Recased, List.forall₂_iff_zip, Prod.forall])

theorem SameLetter.toLower_eq {c d : Char} (same : SameLetter c d) : c.toLower = d.toLower := by
  rcases same with equal | lowered | lowered
  · rw [equal]
  · rw [← lowered, toLower_toLower]
  · rw [lowered, toLower_toLower]

theorem Recased.lowerLatin_eq {text other : String} (recased : Recased text other) :
    lowerLatin text = lowerLatin other := by
  have lettersEqual :
      List.Forall₂ Eq (text.toList.map Char.toLower) (other.toList.map Char.toLower) := by
    rw [List.forall₂_map_left_iff, List.forall₂_map_right_iff]
    exact recased.imp fun _ _ same => same.toLower_eq
  rw [List.forall₂_eq_eq_eq] at lettersEqual
  rw [lowerLatin, lowerLatin, lettersEqual]

theorem Recased.eq_empty_iff {text other : String} (recased : Recased text other) :
    text = "" ↔ other = "" := by
  have sameLength := recased.length_eq
  rw [← String.toList_eq_nil_iff, ← String.toList_eq_nil_iff, ← List.length_eq_zero_iff,
    ← List.length_eq_zero_iff, sameLength]

end Text

/-! ## Inputs in another case -/

inductive Column.Recased (column : Column) : Column → Prop
  | mk {nativeType : String} :
      Text.Recased column.nativeType nativeType →
      Column.Recased column { column with nativeType }

inductive Table.Recased (table : Table) : Table → Prop
  | mk {columns : List Column} :
      List.Forall₂ Column.Recased table.columns columns →
      Table.Recased table { table with columns }

/-- Two schemas that differ at most in the case of the native types of columns. -/
def Schema.Recased (schema other : Schema) : Prop :=
  List.Forall₂ Table.Recased schema.entries other.entries

inductive Query.Recased (query : Query) : Query → Prop
  | mk {columns : List Column} :
      List.Forall₂ Column.Recased query.columns columns →
      Query.Recased query { query with columns }

inductive TypeOverride.Recased : TypeOverride → TypeOverride → Prop
  | forColumn (table column target : String) :
      TypeOverride.Recased (.forColumn table column target) (.forColumn table column target)
  | forType {nativeType other : String} (nullable : Bool) (target : String) :
      Text.Recased nativeType other →
      TypeOverride.Recased (.forType nativeType nullable target) (.forType other nullable target)

/-- Two settings that differ at most in the case of the native types of
overrides. -/
inductive Settings.Recased (settings : Settings) : Settings → Prop
  | mk {overrides : List TypeOverride} :
      List.Forall₂ TypeOverride.Recased settings.overrides overrides →
      Settings.Recased settings { settings with overrides }

theorem Settings.Recased.namesAlike
    {settings other : Settings} (recased : settings.Recased other) (table : String) :
    settings.NamesAlike other table := by
  obtain ⟨_⟩ := recased
  exact ⟨rfl, rfl⟩

/-! ## Comparisons of native types -/

section

variable {settings otherSettings : Settings} {column otherColumn : Column}

theorem isEnum_recased (sameColumn : column.Recased otherColumn) :
    column.isEnum = otherColumn.isEnum := by
  obtain ⟨sameType⟩ := sameColumn
  simp only [Column.isEnum, Text.sameLatin, sameType.lowerLatin_eq]

theorem appliesTo_recased
    {rule otherRule : TypeOverride}
    (sameRule : rule.Recased otherRule) (sameColumn : column.Recased otherColumn) :
    rule.appliesTo column = otherRule.appliesTo otherColumn := by
  obtain ⟨sameType⟩ := sameColumn
  cases sameRule with
  | forColumn table name target => rfl
  | forType nullable target sameRuleType =>
      have sameEmptiness := sameRuleType.eq_empty_iff
      simp only [TypeOverride.appliesTo, Text.sameLatin, sameRuleType.lowerLatin_eq,
        sameType.lowerLatin_eq, ne_eq, sameEmptiness]
      rfl

theorem target_recased {rule otherRule : TypeOverride} (sameRule : rule.Recased otherRule) :
    rule.target = otherRule.target := by
  cases sameRule with
  | forColumn => rfl
  | forType => rfl

/-- The first override that applies stands at the same place. -/
theorem find?_recased
    {rules otherRules : List TypeOverride}
    (sameRules : List.Forall₂ TypeOverride.Recased rules otherRules)
    (sameColumn : column.Recased otherColumn) :
    (rules.find? fun rule => rule.appliesTo column).map TypeOverride.target =
      (otherRules.find? fun rule => rule.appliesTo otherColumn).map TypeOverride.target := by
  induction sameRules with
  | nil => rfl
  | @cons rule otherRule rest otherRest sameRule _ inductionHypothesis =>
      have sameTest := appliesTo_recased sameRule sameColumn
      by_cases applies : rule.appliesTo column = true
      · have otherApplies : otherRule.appliesTo otherColumn = true := sameTest ▸ applies
        rw [List.find?_cons_of_pos applies, List.find?_cons_of_pos otherApplies,
          Option.map_some, Option.map_some, target_recased sameRule]
      · have otherPasses : ¬ otherRule.appliesTo otherColumn = true := sameTest ▸ applies
        rw [List.find?_cons_of_neg applies, List.find?_cons_of_neg otherPasses,
          inductionHypothesis]

theorem override?_recased
    (sameSettings : settings.Recased otherSettings) (sameColumn : column.Recased otherColumn) :
    settings.override? column = otherSettings.override? otherColumn := by
  obtain ⟨sameRules⟩ := sameSettings
  exact find?_recased sameRules sameColumn

/-- Native types of one spelling have one category, except that unknown ones keep
their own spelling. -/
theorem ofName_recased {nativeType other : String} (sameType : Text.Recased nativeType other) :
    NativeType.ofName nativeType = NativeType.ofName other ∨
      NativeType.ofName nativeType = .unknown nativeType ∧
        NativeType.ofName other = .unknown other := by
  unfold NativeType.ofName
  rw [sameType.lowerLatin_eq]
  cases NativeType.categories.lookup (Text.lowerLatin other) with
  | some category => exact .inl rfl
  | none =>
      by_cases decimal : NativeType.isDecimal (Text.lowerLatin other) = true
      · exact .inl (by simp only [if_pos decimal])
      · exact .inr (by simp only [if_neg decimal, and_self])

theorem nativeTypeSource_recased
    (sameSettings : settings.Recased otherSettings) (sameColumn : column.Recased otherColumn) :
    nativeTypeSource settings column = nativeTypeSource otherSettings otherColumn := by
  obtain ⟨sameType⟩ := sameColumn
  have sameEnum := columnEnumName_congr (sameSettings.namesAlike column.table) column.name
  rcases ofName_recased sameType with classified | ⟨unknown, otherUnknown⟩
  · simp only [nativeTypeSource, classified]
    split
    · exact congrArg TypeSource.enumeration sameEnum
    · rfl
  · simp only [nativeTypeSource, unknown, otherUnknown]
    rfl

theorem typeSource_recased
    (sameSettings : settings.Recased otherSettings) (sameColumn : column.Recased otherColumn) :
    typeSource settings column = typeSource otherSettings otherColumn := by
  unfold typeSource
  rw [override?_recased sameSettings sameColumn, nativeTypeSource_recased sameSettings sameColumn]

theorem typedColumn_recased
    (sameSettings : settings.Recased otherSettings) (sameColumn : column.Recased otherColumn) :
    typedColumn settings column = typedColumn otherSettings otherColumn := by
  have sameSource := typeSource_recased sameSettings sameColumn
  obtain ⟨_⟩ := sameColumn
  rw [typedColumn, typedColumn, sameSource]
  rfl

theorem unresolved_recased
    (sameSettings : settings.Recased otherSettings) (sameColumn : column.Recased otherColumn) :
    Unresolved settings column ↔ Unresolved otherSettings otherColumn := by
  rw [← typeSource_eq_unknown_iff, ← typeSource_eq_unknown_iff,
    typeSource_recased sameSettings sameColumn]

end

/-! ## Declarations of a schema -/

section

variable {settings otherSettings : Settings} {schema otherSchema : Schema}
  {table otherTable : Table}

theorem typedTable_recased
    (sameSettings : settings.Recased otherSettings) (sameTable : table.Recased otherTable) :
    typedTable settings table = typedTable otherSettings otherTable := by
  obtain ⟨sameColumns⟩ := sameTable
  have sameTypes := map_eq_of_forall₂ sameColumns fun _ _ sameColumn =>
    typedColumn_recased sameSettings sameColumn
  simp only [typedTable, sameTypes]

theorem filter_isEnum_recased
    {columns otherColumns : List Column}
    (sameColumns : List.Forall₂ Column.Recased columns otherColumns) :
    List.Forall₂ Column.Recased
      (columns.filter Column.isEnum) (otherColumns.filter Column.isEnum) := by
  apply List.rel_filter _ sameColumns
  intro column otherColumn sameColumn
  simp only [isEnum_recased sameColumn]

theorem tableEnums_recased
    (sameSettings : settings.Recased otherSettings) (sameTable : table.Recased otherTable) :
    tableEnums settings table = tableEnums otherSettings otherTable := by
  obtain ⟨sameColumns⟩ := sameTable
  refine map_eq_of_forall₂ (filter_isEnum_recased sameColumns) ?_
  intro column otherColumn sameColumn
  rw [columnEnum_congr (sameSettings.namesAlike table.name)]
  obtain ⟨_⟩ := sameColumn
  rfl

theorem schemaStructs_recased
    (sameSettings : settings.Recased otherSettings)
    (sameSchema : Schema.Recased schema otherSchema) :
    schemaStructs settings schema = schemaStructs otherSettings otherSchema :=
  schemaStructs_congr sameSettings.namesAlike
    (map_eq_of_forall₂ sameSchema fun _ _ sameTable =>
      typedTable_recased sameSettings sameTable)

theorem schemaEnums_recased
    (sameSettings : settings.Recased otherSettings)
    (sameSchema : Schema.Recased schema otherSchema) :
    schemaEnums settings schema = schemaEnums otherSettings otherSchema := by
  have sameEnums := map_eq_of_forall₂ sameSchema fun _ _ sameTable =>
    tableEnums_recased sameSettings sameTable
  rw [schemaEnums, schemaEnums, List.flatMap_def, List.flatMap_def, sameEnums]

end

/-! ## Methods and findings -/

section

variable {settings otherSettings : Settings} {query otherQuery : Query}

theorem boundQuery?_recased
    (sameSettings : settings.Recased otherSettings) (sameQuery : query.Recased otherQuery)
    (structs : List StructDecl) :
    boundQuery? settings structs query = boundQuery? otherSettings structs otherQuery := by
  obtain ⟨sameColumns⟩ := sameQuery
  exact boundQuery?_congr sameSettings.namesAlike structs query
    (map_eq_of_forall₂ sameColumns fun _ _ sameColumn =>
      typedColumn_recased sameSettings sameColumn)

theorem methods_recased
    {queries otherQueries : List Query} (sameSettings : settings.Recased otherSettings)
    (sameQueries : List.Forall₂ Query.Recased queries otherQueries)
    (structs : List StructDecl) :
    queries.filterMap (boundQuery? settings structs) =
      otherQueries.filterMap (boundQuery? otherSettings structs) := by
  have sameResults := map_eq_of_forall₂ sameQueries fun _ _ sameQuery =>
    boundQuery?_recased sameSettings sameQuery structs
  have sameMethods := congrArg (List.filterMap id) sameResults
  rw [List.filterMap_map, List.filterMap_map] at sameMethods
  exact sameMethods

end

/-- The columns that a pass looks at, in this order. -/
def passColumns (schema : Schema) (queries : List Query) : List Column :=
  schema.entries.flatMap Table.columns ++ (queries.filter Query.isBound).flatMap Query.columns

theorem diagnostics_passOutcome
    (settings : Settings) (schema : Schema) (queries : List Query) :
    (passOutcome settings schema queries).diagnostics =
      ((passColumns schema queries).filter fun column =>
        Unresolved settings column).map Column.finding := by
  rw [← flatMap_typeFindings, passColumns, List.flatMap_append, ← schemaFindings_eq,
    ← flatMap_queryFindings]
  rfl

theorem passColumns_recased
    {schema otherSchema : Schema} {queries otherQueries : List Query}
    (sameSchema : Schema.Recased schema otherSchema)
    (sameQueries : List.Forall₂ Query.Recased queries otherQueries) :
    List.Forall₂ Column.Recased
      (passColumns schema queries) (passColumns otherSchema otherQueries) := by
  have tableColumns : List.Forall₂ Column.Recased
      (schema.entries.flatMap Table.columns) (otherSchema.entries.flatMap Table.columns) := by
    apply List.rel_flatMap sameSchema
    intro table otherTable sameTable
    obtain ⟨sameColumns⟩ := sameTable
    exact sameColumns
  have boundQueries : List.Forall₂ Query.Recased
      (queries.filter Query.isBound) (otherQueries.filter Query.isBound) := by
    apply List.rel_filter _ sameQueries
    intro query otherQuery sameQuery
    obtain ⟨_⟩ := sameQuery
    exact Iff.rfl
  have queryColumns : List.Forall₂ Column.Recased
      ((queries.filter Query.isBound).flatMap Query.columns)
      ((otherQueries.filter Query.isBound).flatMap Query.columns) := by
    apply List.rel_flatMap boundQueries
    intro query otherQuery sameQuery
    obtain ⟨sameColumns⟩ := sameQuery
    exact sameColumns
  exact List.rel_append tableColumns queryColumns

/-! ## Whole passes -/

/-- Slots with queries side by side are filled alike, or have their first empty
slot at the same place. -/
theorem slots_recased
    {slots otherSlots : List (Option Query)}
    (sameSlots : List.Forall₂ (Option.Rel Query.Recased) slots otherSlots) :
    (∃ queries otherQueries, slots = queries.map some ∧ otherSlots = otherQueries.map some ∧
        List.Forall₂ Query.Recased queries otherQueries) ∨
      ∃ (before otherBefore : List Query) (after otherAfter : List (Option Query)),
        slots = before.map some ++ none :: after ∧
        otherSlots = otherBefore.map some ++ none :: otherAfter ∧
        before.length = otherBefore.length ∧ after.length = otherAfter.length := by
  induction sameSlots with
  | nil => exact .inl ⟨[], [], rfl, rfl, .nil⟩
  | @cons slot otherSlot rest otherRest sameSlot sameRest inductionHypothesis =>
      cases sameSlot with
      | none => exact .inr ⟨[], [], rest, otherRest, rfl, rfl, rfl, sameRest.length_eq⟩
      | @some query otherQuery sameQuery =>
          rcases inductionHypothesis with
            ⟨queries, otherQueries, rfl, rfl, sameQueries⟩ |
              ⟨before, otherBefore, after, otherAfter, rfl, rfl, sameBefore, sameAfter⟩
          · exact .inl ⟨query :: queries, otherQuery :: otherQueries, rfl, rfl,
              .cons sameQuery sameQueries⟩
          · exact .inr ⟨query :: before, otherQuery :: otherBefore, after, otherAfter, rfl, rfl,
              congrArg Nat.succ sameBefore, sameAfter⟩

/-- The case of native types does not matter: both passes stop at the same empty
slot, or they make the same declarations and report the same columns. -/
theorem native_type_case_irrelevant
    {settings otherSettings : Settings} {schema otherSchema : Schema}
    {slots otherSlots : List (Option Query)}
    (sameSettings : settings.Recased otherSettings)
    (sameSchema : Schema.Recased schema otherSchema)
    (sameSlots : List.Forall₂ (Option.Rel Query.Recased) slots otherSlots) :
    (∃ error,
        generate settings schema slots = .error error ∧
        generate otherSettings otherSchema otherSlots = .error error) ∨
      ∃ output other,
        generate settings schema slots = .ok output ∧
        generate otherSettings otherSchema otherSlots = .ok other ∧
        output.enums = other.enums ∧ output.structs = other.structs ∧
        output.queries = other.queries ∧
        ∃ columns otherColumns,
          columns.Sublist (passColumns schema slots.reduceOption) ∧
          otherColumns.Sublist (passColumns otherSchema otherSlots.reduceOption) ∧
          List.Forall₂ Column.Recased columns otherColumns ∧
          output.diagnostics = columns.map Column.finding ∧
          other.diagnostics = otherColumns.map Column.finding := by
  rcases slots_recased sameSlots with
    ⟨queries, otherQueries, rfl, rfl, sameQueries⟩ |
      ⟨before, otherBefore, after, otherAfter, rfl, rfl, sameBefore, sameAfter⟩
  · have sameStructs := schemaStructs_recased sameSettings sameSchema
    have sameMethods := methods_recased sameSettings sameQueries
      (schemaStructs otherSettings otherSchema)
    have sameUnresolved : List.Forall₂ Column.Recased
        ((passColumns schema queries).filter fun column => Unresolved settings column)
        ((passColumns otherSchema otherQueries).filter fun column =>
          Unresolved otherSettings column) := by
      apply List.rel_filter _ (passColumns_recased sameSchema sameQueries)
      intro column otherColumn sameColumn
      simp only [decide_eq_true_eq, unresolved_recased sameSettings sameColumn]
    rw [reduceOption_map_some, reduceOption_map_some]
    refine .inr ⟨passOutcome settings schema queries,
      passOutcome otherSettings otherSchema otherQueries,
      generate_filled settings schema queries,
      generate_filled otherSettings otherSchema otherQueries,
      schemaEnums_recased sameSettings sameSchema, sameStructs, ?_,
      _, _, List.filter_sublist, List.filter_sublist, sameUnresolved,
      diagnostics_passOutcome settings schema queries,
      diagnostics_passOutcome otherSettings otherSchema otherQueries⟩
    simp only [passOutcome, sameStructs, sameMethods]
  · refine .inl ⟨_, generate_empty settings schema before after, ?_⟩
    rw [generate_empty, sameBefore, sameAfter]

/-- Settings with an override for a native type. -/
def amountSettings (nativeType : String) : Settings :=
  Settings.withOverride {} (.forType nativeType true "decimal.NullDecimal")

/-- A table with an enum column, a column of an overridden type and a column of an
unknown type. -/
def orderTable (enumType amountType placeType : String) : Table :=
  { name := "shop_orders",
    columns :=
      [{ label := some "state", nativeType := enumType, notNull := true,
         table := "shop_orders", enumValues := ["'open'"] },
       { label := some "amount", nativeType := amountType, table := "shop_orders" },
       { label := some "place", nativeType := placeType, table := "shop_orders" }] }

def listOrders (table : Table) : Query :=
  { name := "ListOrders", command := some .many, sql := "SELECT * FROM shop_orders",
    columns := table.columns }

theorem orders_recased :
    (amountSettings "decimal(8,2)").Recased (amountSettings "DECIMAL(8,2)") ∧
      Schema.Recased (Catalog.ofList [orderTable "enum" "Decimal(8,2)" "point"])
        (Catalog.ofList [orderTable "ENUM" "decimal(8,2)" "Point"]) ∧
      (listOrders (orderTable "enum" "Decimal(8,2)" "point")).Recased
        (listOrders (orderTable "ENUM" "decimal(8,2)" "Point")) ∧
      ∃ output other,
        generate (amountSettings "decimal(8,2)")
            (Catalog.ofList [orderTable "enum" "Decimal(8,2)" "point"])
            [some (listOrders (orderTable "enum" "Decimal(8,2)" "point"))] = .ok output ∧
        generate (amountSettings "DECIMAL(8,2)")
            (Catalog.ofList [orderTable "ENUM" "decimal(8,2)" "Point"])
            [some (listOrders (orderTable "ENUM" "decimal(8,2)" "Point"))] = .ok other ∧
        output.enums = other.enums ∧ output.structs = other.structs ∧
        output.queries = other.queries ∧
        output.diagnostics.length = 2 := by
  have sameSettings :
      (amountSettings "decimal(8,2)").Recased (amountSettings "DECIMAL(8,2)") :=
    .mk (.cons (.forType true "decimal.NullDecimal" (by decide)) .nil)
  have sameColumns :
      List.Forall₂ Column.Recased (orderTable "enum" "Decimal(8,2)" "point").columns
        (orderTable "ENUM" "decimal(8,2)" "Point").columns :=
    .cons (.mk (by decide)) (.cons (.mk (by decide)) (.cons (.mk (by decide)) .nil))
  have sameSchema :
      Schema.Recased (Catalog.ofList [orderTable "enum" "Decimal(8,2)" "point"])
        (Catalog.ofList [orderTable "ENUM" "decimal(8,2)" "Point"]) :=
    .cons (.mk sameColumns) .nil
  have sameQuery :
      (listOrders (orderTable "enum" "Decimal(8,2)" "point")).Recased
        (listOrders (orderTable "ENUM" "decimal(8,2)" "Point")) :=
    .mk sameColumns
  have generated := generate_filled (amountSettings "decimal(8,2)")
    (Catalog.ofList [orderTable "enum" "Decimal(8,2)" "point"])
    [listOrders (orderTable "enum" "Decimal(8,2)" "point")]
  refine ⟨sameSettings, sameSchema, sameQuery, ?_⟩
  rcases native_type_case_irrelevant sameSettings sameSchema
      (.cons (.some sameQuery) .nil) with
    ⟨_, failed, _⟩ | ⟨output, other, succeeded, otherSucceeded, enums, structs, queries, _⟩
  · exact nomatch generated.symm.trans failed
  · refine ⟨output, other, succeeded, otherSucceeded, enums, structs, queries, ?_⟩
    have outcome := generated.symm.trans succeeded
    injection outcome with same
    rw [← same]
    decide

end TypedSql
