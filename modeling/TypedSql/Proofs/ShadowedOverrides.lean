import TypedSql.Proofs.NativeTypeCase

/-!
# Overrides that decide nothing

A pass depends on its overrides only through the first one that applies to each
column it looks at. An override may therefore be left out if earlier ones apply
to all of its columns, and two neighbours may change places if none of these
columns is one of both.
-/

namespace TypedSql

/-! ## The first override that applies -/

namespace TypeOverride

/-- Of either list the same override applies first to each of the columns. -/
def DecideAlike (columns : List Column) (rules others : List TypeOverride) : Prop :=
  ∀ column ∈ columns,
    (rules.find? fun rule => rule.appliesTo column) =
      others.find? fun rule => rule.appliesTo column

/-- Each of the columns to which the override applies is one of an earlier
override. -/
def ShadowedBy (columns : List Column) (rule : TypeOverride) (earlier : List TypeOverride) :
    Prop :=
  ∀ column ∈ columns, rule.appliesTo column = true →
    ∃ other ∈ earlier, other.appliesTo column = true

instance (columns : List Column) (rule : TypeOverride) (earlier : List TypeOverride) :
    Decidable (rule.ShadowedBy columns earlier) :=
  inferInstanceAs (Decidable (∀ column ∈ columns, rule.appliesTo column = true →
    ∃ other ∈ earlier, other.appliesTo column = true))

/-- To none of the columns do both overrides apply. -/
def Apart (columns : List Column) (first second : TypeOverride) : Prop :=
  ∀ column ∈ columns, ¬ (first.appliesTo column = true ∧ second.appliesTo column = true)

instance (columns : List Column) (first second : TypeOverride) :
    Decidable (first.Apart columns second) :=
  inferInstanceAs (Decidable (∀ column ∈ columns,
    ¬ (first.appliesTo column = true ∧ second.appliesTo column = true)))

variable {columns : List Column}

theorem ShadowedBy.decideAlike
    {rule : TypeOverride} {before : List TypeOverride}
    (shadowed : rule.ShadowedBy columns before) (after : List TypeOverride) :
    DecideAlike columns (before ++ rule :: after) (before ++ after) := by
  intro column member
  rw [List.find?_append, List.find?_append]
  cases decided : before.find? fun earlier => earlier.appliesTo column with
  | some earlier => rfl
  | none =>
      have undecided := List.find?_eq_none.1 decided
      have passes : ¬ rule.appliesTo column = true := by
        intro applies
        obtain ⟨earlier, inBefore, earlierApplies⟩ := shadowed column member applies
        exact undecided earlier inBefore earlierApplies
      rw [List.find?_cons_of_neg passes]

theorem Apart.decideAlike
    {first second : TypeOverride} (apart : first.Apart columns second)
    (before after : List TypeOverride) :
    DecideAlike columns (before ++ second :: first :: after)
      (before ++ first :: second :: after) := by
  intro column member
  rw [List.find?_append, List.find?_append]
  by_cases firstApplies : first.appliesTo column = true
  · have secondPasses : ¬ second.appliesTo column = true := fun secondApplies =>
      apart column member ⟨firstApplies, secondApplies⟩
    rw [List.find?_cons_of_neg secondPasses, List.find?_cons_of_pos firstApplies,
      List.find?_cons_of_pos firstApplies]
  · rw [List.find?_cons_of_neg firstApplies (l := second :: after)]
    by_cases secondApplies : second.appliesTo column = true
    · rw [List.find?_cons_of_pos secondApplies, List.find?_cons_of_pos secondApplies]
    · rw [List.find?_cons_of_neg secondApplies, List.find?_cons_of_neg secondApplies,
        List.find?_cons_of_neg firstApplies]

end TypeOverride

/-! ## Passes under other overrides -/

/-- The settings with a list of overrides in the place of their own. -/
def Settings.withOverrides (settings : Settings) (rules : List TypeOverride) : Settings :=
  { settings with overrides := rules }

section

variable {rules others : List TypeOverride} (settings : Settings)

theorem withOverrides_namesAlike (table : String) :
    (settings.withOverrides rules).NamesAlike (settings.withOverrides others) table :=
  ⟨rfl, rfl⟩

theorem typeSource_of_decideAlike
    {columns : List Column} (alike : TypeOverride.DecideAlike columns rules others)
    {column : Column} (member : column ∈ columns) :
    typeSource (settings.withOverrides rules) column =
      typeSource (settings.withOverrides others) column := by
  have sameOverride : (settings.withOverrides rules).override? column =
      (settings.withOverrides others).override? column :=
    congrArg (Option.map TypeOverride.target) (alike column member)
  exact typeSource_congr sameOverride (withOverrides_namesAlike settings column.table)

theorem typedColumns_of_decideAlike
    {columns : List Column} (alike : TypeOverride.DecideAlike columns rules others) :
    columns.map (typedColumn (settings.withOverrides rules)) =
      columns.map (typedColumn (settings.withOverrides others)) := by
  apply List.map_congr_left
  intro column member
  rw [typedColumn, typedColumn, typeSource_of_decideAlike settings alike member]

/-- Only the result columns of a bound query matter. -/
theorem boundQuery?_of_decideAlike
    {query : Query} (structs : List StructDecl)
    (alike : query.isBound = true → TypeOverride.DecideAlike query.columns rules others) :
    boundQuery? (settings.withOverrides rules) structs query =
      boundQuery? (settings.withOverrides others) structs query := by
  by_cases bound : query.isBound = true
  · exact boundQuery?_congr (withOverrides_namesAlike settings) structs query
      (typedColumns_of_decideAlike settings (alike bound))
  · rw [boundQuery?_of_not_isBound _ structs bound, boundQuery?_of_not_isBound _ structs bound]

section

variable {schema : Schema} {queries : List Query}
  (alike : TypeOverride.DecideAlike (passColumns schema queries) rules others)

include alike

theorem schemaStructs_of_decideAlike :
    schemaStructs (settings.withOverrides rules) schema =
      schemaStructs (settings.withOverrides others) schema := by
  refine schemaStructs_congr (withOverrides_namesAlike settings) ?_
  apply List.map_congr_left
  intro table inSchema
  have alikeInTable : TypeOverride.DecideAlike table.columns rules others := by
    intro column member
    exact alike column (List.mem_append_left _
      (List.mem_flatMap.2 ⟨table, inSchema, member⟩))
  rw [typedTable, typedTable, typedColumns_of_decideAlike settings alikeInTable]

theorem methods_of_decideAlike (structs : List StructDecl) :
    queries.filterMap (boundQuery? (settings.withOverrides rules) structs) =
      queries.filterMap (boundQuery? (settings.withOverrides others) structs) := by
  apply List.filterMap_congr
  intro query inQueries
  apply boundQuery?_of_decideAlike
  intro bound column member
  exact alike column (List.mem_append_right _
    (List.mem_flatMap.2 ⟨query, List.mem_filter.2 ⟨inQueries, bound⟩, member⟩))

theorem diagnostics_of_decideAlike :
    (passOutcome (settings.withOverrides rules) schema queries).diagnostics =
      (passOutcome (settings.withOverrides others) schema queries).diagnostics := by
  rw [diagnostics_passOutcome, diagnostics_passOutcome]
  congr 1
  apply List.filter_congr
  intro column member
  rw [decide_eq_decide, ← typeSource_eq_unknown_iff, ← typeSource_eq_unknown_iff,
    typeSource_of_decideAlike settings alike member]

/-- Overrides that decide alike about all columns of a pass lead to one outcome. -/
theorem passOutcome_of_decideAlike :
    passOutcome (settings.withOverrides rules) schema queries =
      passOutcome (settings.withOverrides others) schema queries := by
  have sameDiagnostics := diagnostics_of_decideAlike settings alike
  have sameStructs := schemaStructs_of_decideAlike settings alike
  have sameMethods := methods_of_decideAlike settings alike
    (schemaStructs (settings.withOverrides others) schema)
  rw [Outcome.mk.injEq]
  refine ⟨rfl, sameStructs, ?_, sameDiagnostics⟩
  simp only [passOutcome, sameStructs, sameMethods]

end

end

/-- A pass has the same outcome with and without an override behind others that
apply to all of its columns. It also has the same outcome if two neighbouring
overrides change places, provided that they apply to no column in common. -/
theorem shadowed_overrides_are_dead
    (settings : Settings) (schema : Schema) (queries : List Query)
    (before after : List TypeOverride) :
    (∀ rule, rule.ShadowedBy (passColumns schema queries) before →
      ∃ output,
        generate (settings.withOverrides (before ++ rule :: after)) schema
            (queries.map some) = .ok output ∧
          generate (settings.withOverrides (before ++ after)) schema
            (queries.map some) = .ok output) ∧
      ∀ first second, first.Apart (passColumns schema queries) second →
        ∃ output,
          generate (settings.withOverrides (before ++ second :: first :: after)) schema
              (queries.map some) = .ok output ∧
            generate (settings.withOverrides (before ++ first :: second :: after)) schema
              (queries.map some) = .ok output := by
  refine ⟨?_, ?_⟩
  · intro rule shadowed
    have sameOutcome := passOutcome_of_decideAlike settings (shadowed.decideAlike after)
    exact ⟨_, generate_filled _ schema queries,
      (generate_filled _ schema queries).trans (congrArg Except.ok sameOutcome.symm)⟩
  · intro first second apart
    have sameOutcome := passOutcome_of_decideAlike settings (apart.decideAlike before after)
    exact ⟨_, generate_filled _ schema queries,
      (generate_filled _ schema queries).trans (congrArg Except.ok sameOutcome.symm)⟩

/-- An override of the area of a site, which other ones may follow. -/
def areaRule : TypeOverride :=
  .forColumn "sites" "area" "Polygon"

def polygonRule : TypeOverride :=
  .forType "POLYGON" true "Shape"

def pointRule : TypeOverride :=
  .forType "point" true "Point"

theorem polygonRule_is_dead :
    (∃ column ∈ passColumns (Catalog.ofList [siteTable, zoneTable]) [listSites, findBorder],
        polygonRule.appliesTo column = true) ∧
      polygonRule.ShadowedBy
        (passColumns (Catalog.ofList [siteTable, zoneTable]) [listSites, findBorder])
        [areaRule] ∧
      areaRule.Apart
        (passColumns (Catalog.ofList [siteTable, zoneTable]) [listSites, findBorder])
        pointRule ∧
      ∃ output,
        generate (Settings.withOverrides {} [areaRule, polygonRule, pointRule])
            (Catalog.ofList [siteTable, zoneTable]) [some listSites, some findBorder] =
          .ok output ∧
        generate (Settings.withOverrides {} [areaRule, pointRule])
            (Catalog.ofList [siteTable, zoneTable]) [some listSites, some findBorder] =
          .ok output ∧
        generate (Settings.withOverrides {} [pointRule, areaRule])
            (Catalog.ofList [siteTable, zoneTable]) [some listSites, some findBorder] =
          .ok output := by
  have shadowed : polygonRule.ShadowedBy
      (passColumns (Catalog.ofList [siteTable, zoneTable]) [listSites, findBorder])
      [areaRule] := by decide
  have apart : areaRule.Apart
      (passColumns (Catalog.ofList [siteTable, zoneTable]) [listSites, findBorder])
      pointRule := by decide
  obtain ⟨output, inserted, plain⟩ :=
    (shadowed_overrides_are_dead {} (Catalog.ofList [siteTable, zoneTable])
      [listSites, findBorder] [areaRule] [pointRule]).1 polygonRule shadowed
  obtain ⟨other, swapped, unswapped⟩ :=
    (shadowed_overrides_are_dead {} (Catalog.ofList [siteTable, zoneTable])
      [listSites, findBorder] [] []).2 areaRule pointRule apart
  have same : output = other := Except.ok.inj (plain.symm.trans unswapped)
  exact ⟨by decide, shadowed, apart, output, inserted, plain, same ▸ swapped⟩

end TypedSql
