import TypedSql.Proofs.ColumnTypes

/-!
# What a pass reports

A pass reports the columns without a known type, each of them once: those of the
tables in the order of the tables, and then the result columns of the bound
queries in the order of their slots. The order in which structs and methods are
sorted plays no part in it.
-/

namespace TypedSql

/-! ## Columns without a known type -/

/-- No override applies to the column, and its native type is in no category. -/
def Unresolved (settings : Settings) (column : Column) : Prop :=
  ¬ settings.Overrides column ∧
    NativeType.ofName column.nativeType = .unknown column.nativeType

instance (settings : Settings) (column : Column) : Decidable (settings.Overrides column) :=
  inferInstanceAs (Decidable (∃ rule ∈ settings.overrides, rule.appliesTo column = true))

instance (settings : Settings) (column : Column) : Decidable (Unresolved settings column) :=
  inferInstanceAs (Decidable (¬ settings.Overrides column ∧
    NativeType.ofName column.nativeType = .unknown column.nativeType))

/-- The finding about a column, with the table, the name and the native type that
the column itself carries. -/
def Column.finding (column : Column) : Diagnostic :=
  .unknownType column.table column.name column.nativeType

/-- An unknown native type stands for itself, in its own spelling. -/
theorem eq_of_ofName_eq_unknown
    {nativeType name : String} (classified : NativeType.ofName nativeType = .unknown name) :
    name = nativeType := by
  unfold NativeType.ofName at classified
  cases known : NativeType.categories.lookup (Text.lowerLatin nativeType) with
  | some category =>
      rw [known] at classified
      dsimp only at classified
      have listed := mem_categories_of_lookup known
      rw [classified] at listed
      exfalso
      simp [NativeType.categories] at listed
  | none =>
      rw [known] at classified
      dsimp only at classified
      by_cases decimal : NativeType.isDecimal (Text.lowerLatin nativeType) = true
      · rw [if_pos decimal] at classified
        cases classified
      · rw [if_neg decimal] at classified
        injection classified with same
        exact same.symm

/-- The columns without a known type are those whose type comes from nowhere. -/
theorem typeSource_eq_unknown_iff {settings : Settings} {column : Column} :
    typeSource settings column = .unknown ↔ Unresolved settings column := by
  constructor
  · intro nowhere
    rcases typeSource_cases settings column with
      ⟨rule, _, _, source⟩ | ⟨_, _, source⟩ | ⟨_, target, _, source⟩ | ⟨free, isUnknown, _⟩
    · rw [source] at nowhere
      exact nomatch nowhere
    · rw [source] at nowhere
      exact nomatch nowhere
    · rw [source] at nowhere
      exact nomatch nowhere
    · obtain ⟨name, classified⟩ := isUnknown
      have own := eq_of_ofName_eq_unknown classified
      rw [own] at classified
      exact ⟨free, classified⟩
  · intro unresolved
    obtain ⟨free, classified⟩ := unresolved
    have notEnum : ¬ column.isEnum = true := by
      intro isEnum
      have enumeration := ofName_eq_enumeration_iff.2 isEnum
      rw [classified] at enumeration
      exact nomatch enumeration
    apply typeSource_of_target?_eq_none notEnum free
    rw [classified]
    rfl

section

variable {settings : Settings} {column : Column}

theorem typeFindings_of_unresolved (unresolved : Unresolved settings column) :
    typeFindings settings column = [column.finding] := by
  rw [typeFindings, if_pos (typeSource_eq_unknown_iff.2 unresolved)]
  rfl

theorem typeFindings_of_resolved (resolved : ¬ Unresolved settings column) :
    typeFindings settings column = [] := by
  have known : ¬ typeSource settings column = .unknown := fun unknown =>
    resolved (typeSource_eq_unknown_iff.1 unknown)
  rw [typeFindings, if_neg known]

end

theorem flatMap_typeFindings (settings : Settings) (columns : List Column) :
    columns.flatMap (typeFindings settings) =
      (columns.filter fun column => Unresolved settings column).map Column.finding := by
  induction columns with
  | nil => rfl
  | cons column rest inductionHypothesis =>
      rw [List.flatMap_cons, inductionHypothesis]
      by_cases unresolved : Unresolved settings column
      · simp only [typeFindings_of_unresolved unresolved, List.filter_cons, unresolved,
          decide_true, if_true, List.map_cons, List.singleton_append]
      · simp only [typeFindings_of_resolved unresolved, List.filter_cons, unresolved,
          decide_false, Bool.false_eq_true, if_false, List.nil_append]

/-! ## Findings about tables and queries -/

theorem schemaFindings_eq (settings : Settings) (schema : Schema) :
    schemaFindings settings schema =
      (schema.entries.flatMap Table.columns).flatMap (typeFindings settings) := by
  rw [List.flatMap_assoc]
  rfl

/-- Skipped queries add nothing to what is found. -/
theorem flatMap_queryFindings (settings : Settings) (queries : List Query) :
    queries.flatMap (queryFindings settings) =
      ((queries.filter Query.isBound).flatMap Query.columns).flatMap
        (typeFindings settings) := by
  rw [List.flatMap_assoc]
  induction queries with
  | nil => rfl
  | cons query rest inductionHypothesis =>
      by_cases bound : query.isBound = true
      · rw [List.flatMap_cons, inductionHypothesis, queryFindings, if_pos bound,
          List.filter_cons_of_pos bound, List.flatMap_cons]
      · rw [List.flatMap_cons, inductionHypothesis, queryFindings, if_neg bound,
          List.filter_cons_of_neg bound, List.nil_append]

/-- A pass reports exactly the columns without a known type: first those of the
tables in ascending order of the table names, then those of the bound queries in
the order of the slots. They are the columns that get the type that holds
anything for want of another one. -/
theorem findings_are_unresolved_columns
    {settings : Settings} {schema : Schema} {slots : List (Option Query)}
    {output : Outcome}
    (generated : generate settings schema slots = .ok output) :
    schema.names.Pairwise (fun left right => left < right) ∧
    output.diagnostics =
      ((schema.entries.flatMap Table.columns ++
          (slots.reduceOption.filter Query.isBound).flatMap Query.columns).filter
        fun column => Unresolved settings column).map Column.finding ∧
    ∀ column,
      (Unresolved settings column ↔ typeSource settings column = .unknown) ∧
      (Unresolved settings column →
        Yields (resolveType settings column) anyType [column.finding]) ∧
      (¬ Unresolved settings column →
        Yields (resolveType settings column) (typeSource settings column).typeName []) := by
  obtain ⟨queries, rfl, rfl⟩ := generate_eq_ok_iff.1 generated
  refine ⟨List.pairwise_map.2 schema.ascending, ?_, ?_⟩
  · rw [reduceOption_map_some, ← flatMap_typeFindings, List.flatMap_append,
      ← schemaFindings_eq, ← flatMap_queryFindings]
    rfl
  · intro column
    have yields := yields_resolveType settings column
    refine ⟨typeSource_eq_unknown_iff.symm, ?_, ?_⟩
    · intro unresolved
      rw [typeSource_eq_unknown_iff.2 unresolved,
        typeFindings_of_unresolved unresolved] at yields
      exact yields
    · intro resolved
      rw [typeFindings_of_resolved resolved] at yields
      exact yields

def zoneTable : Table :=
  { name := "a_zones",
    columns :=
      [{ label := some "border", nativeType := "LineString", table := "a_zones" },
       { label := some "id", nativeType := "int", notNull := true, table := "a_zones" }] }

def siteTable : Table :=
  { name := "sites",
    columns :=
      [{ label := some "spot", nativeType := "point", table := "sites" },
       { label := some "area", nativeType := "polygon", table := "sites" }] }

/-- The struct of the zones is called `Zone` and stands behind the one of the
sites; the area of a site has a type of its own. -/
def zoneSettings : Settings :=
  (Settings.withTable {} "a_zones" { structName := some "zone" }).withOverride
    (.forColumn "sites" "area" "Polygon")

def listSites : Query :=
  { name := "ListSites", command := some .many, sql := "SELECT spot, area FROM sites",
    columns := siteTable.columns }

def draftSites : Query :=
  { name := "DraftSites", sql := "SELECT spot FROM sites", columns := siteTable.columns }

def findBorder : Query :=
  { name := "FindBorder", command := some .one, sql := "SELECT ST_Buffer(border) FROM a_zones",
    columns := [{ nativeType := "geometry" }] }

theorem zones_and_sites_findings :
    generate zoneSettings (Catalog.ofList [siteTable, zoneTable])
          [some listSites, some draftSites, some findBorder] =
        .ok (passOutcome zoneSettings (Catalog.ofList [siteTable, zoneTable])
          [listSites, draftSites, findBorder]) ∧
      (passOutcome zoneSettings (Catalog.ofList [siteTable, zoneTable])
          [listSites, draftSites, findBorder]).diagnostics =
        [.unknownType "a_zones" "border" "LineString", .unknownType "sites" "spot" "point",
          .unknownType "sites" "spot" "point", .unknownType "" "" "geometry"] := by
  have generated := generate_filled zoneSettings (Catalog.ofList [siteTable, zoneTable])
    [listSites, draftSites, findBorder]
  obtain ⟨_, reported, _⟩ := findings_are_unresolved_columns generated
  refine ⟨generated, reported.trans ?_⟩
  decide

end TypedSql
