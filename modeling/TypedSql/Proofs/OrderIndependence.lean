import TypedSql.Proofs.RowReuse
import TypedSql.Proofs.SlotBinding

/-!
# Order independence of a pass

A pass does not depend on the order in which tables with distinct names are
inserted, nor on the order of the queries as long as the bound ones have
distinct names. Only the findings about the queries follow their order.
-/

namespace TypedSql

section

variable (settings : Settings) (structs : List StructDecl)

/-- The methods of queries have the names of the bound queries among them. -/
theorem names_filterMap_boundQuery? (queries : List Query) :
    (queries.filterMap (boundQuery? settings structs)).map QueryMethod.name =
      (queries.filter Query.isBound).map Query.name := by
  have sideBySide :
      List.Forall₂ Eq ((queries.filter Query.isBound).map Query.name)
        ((queries.filterMap (boundQuery? settings structs)).map QueryMethod.name) := by
    rw [List.forall₂_map_left_iff, List.forall₂_map_right_iff]
    refine (forall₂_bindsTo queries).imp ?_
    intro query method binds
    exact binds.name_eq
  rw [List.forall₂_eq_eq_eq] at sideBySide
  exact sideBySide.symm

theorem sorted_methods_eq_of_perm
    {queries shuffled : List Query} (sameQueries : queries.Perm shuffled)
    (distinct : ((queries.filter Query.isBound).map Query.name).Nodup) :
    sortByKey QueryMethod.name (queries.filterMap (boundQuery? settings structs)) =
      sortByKey QueryMethod.name (shuffled.filterMap (boundQuery? settings structs)) := by
  apply sortByKey_eq_of_perm (sameQueries.filterMap (boundQuery? settings structs))
  rw [names_filterMap_boundQuery?]
  exact distinct

end

/-- Two passes over the same tables and queries in different orders agree on all
declarations, and their findings differ in the order of the queries only. -/
theorem pass_order_independent
    (settings : Settings) {tables others : List Table} {queries shuffled : List Query}
    (sameTables : tables.Perm others)
    (distinctTables : (tables.map Table.name).Nodup)
    (sameQueries : queries.Perm shuffled)
    (distinctQueries : ((queries.filter Query.isBound).map Query.name).Nodup) :
    ∃ output other,
      generate settings (Catalog.ofList tables) (queries.map some) = .ok output ∧
      generate settings (Catalog.ofList others) (shuffled.map some) = .ok other ∧
      output.enums = other.enums ∧ output.structs = other.structs ∧
      output.queries = other.queries ∧
      output.diagnostics =
        schemaFindings settings (Catalog.ofList tables) ++
          queries.flatMap (queryFindings settings) ∧
      other.diagnostics =
        schemaFindings settings (Catalog.ofList tables) ++
          shuffled.flatMap (queryFindings settings) ∧
      output.diagnostics.Perm other.diagnostics := by
  have sameSchema : (Catalog.ofList tables : Schema) = Catalog.ofList others :=
    Catalog.ofList_eq_of_perm sameTables distinctTables
  have sameMethods := sorted_methods_eq_of_perm settings
    (schemaStructs settings (Catalog.ofList tables)) sameQueries distinctQueries
  have sameFindings :
      (queries.flatMap (queryFindings settings)).Perm
        (shuffled.flatMap (queryFindings settings)) :=
    sameQueries.flatMap_right (queryFindings settings)
  rw [← sameSchema]
  exact ⟨passOutcome settings (Catalog.ofList tables) queries,
    passOutcome settings (Catalog.ofList tables) shuffled,
    generate_filled settings (Catalog.ofList tables) queries,
    generate_filled settings (Catalog.ofList tables) shuffled,
    rfl, rfl, sameMethods, rfl, rfl,
    sameFindings.append_left (schemaFindings settings (Catalog.ofList tables))⟩

def placeTable : Table :=
  { name := "places",
    columns := [{ label := some "spot", nativeType := "point", table := "places" }] }

def findPlace : Query :=
  { name := "FindPlace", command := some .one, sql := "SELECT spot FROM places",
    columns := [{ label := some "spot", nativeType := "point", table := "places" }] }

/-- A query without a command, named like one that is bound. -/
def draftDevices : Query :=
  { name := "ListDevices", sql := "SELECT id FROM app_devices" }

theorem places_and_devices_order_independent :
    [deviceTable, placeTable].Perm [placeTable, deviceTable] ∧
      ([deviceTable, placeTable].map Table.name).Nodup ∧
      [listDevices, draftDevices, findPlace].Perm [findPlace, draftDevices, listDevices] ∧
      (([listDevices, draftDevices, findPlace].filter Query.isBound).map Query.name).Nodup ∧
      ∃ output other,
        generate deviceSettings (Catalog.ofList [deviceTable, placeTable])
            [some listDevices, some draftDevices, some findPlace] = .ok output ∧
          generate deviceSettings (Catalog.ofList [placeTable, deviceTable])
            [some findPlace, some draftDevices, some listDevices] = .ok other ∧
          output.structs = other.structs ∧ output.queries = other.queries ∧
          output.diagnostics.Perm other.diagnostics := by
  have sameTables : [deviceTable, placeTable].Perm [placeTable, deviceTable] := by decide
  have distinctTables : ([deviceTable, placeTable].map Table.name).Nodup := by decide
  have sameQueries :
      [listDevices, draftDevices, findPlace].Perm [findPlace, draftDevices, listDevices] := by
    decide
  have distinctQueries :
      (([listDevices, draftDevices, findPlace].filter Query.isBound).map Query.name).Nodup := by
    decide
  obtain ⟨output, other, generated, generatedOther, _, structs, queries, _, _, findings⟩ :=
    pass_order_independent deviceSettings sameTables distinctTables sameQueries distinctQueries
  exact ⟨sameTables, distinctTables, sameQueries, distinctQueries, output, other, generated,
    generatedOther, structs, queries, findings⟩

end TypedSql
