import TypedSql.Proofs.RowReuse
import TypedSql.Proofs.StableOrder

/-!
# References to structs

The struct values of a pass either introduce a struct of their own or refer to
the struct of a table. The list of all structs holds each of them once, sorted
by name and without changing the order among equal names.
-/

namespace TypedSql

/-! ## Values of methods -/

/-- A struct value introduces a struct that belongs to no table, or it refers to
one of the given structs that belongs to a table with a name. -/
def MethodValue.Closed (structs : List StructDecl) : MethodValue → Prop
  | .absent => True
  | .scalar _ _ => True
  | .struct _ decl true => decl.table = none
  | .struct _ decl false => (∃ table, table ≠ "" ∧ decl.table = some table) ∧ decl ∈ structs

theorem closed_argValue
    (settings : Settings) (structs : List StructDecl) (method : String)
    (params : List Param) :
    (argValue settings method params).Closed structs := by
  match params with
  | [] => trivial
  | [_] => trivial
  | _ :: _ :: _ => rfl

/-- A struct that the search finds is one of those searched and has a table. -/
theorem mem_of_reusedStruct?
    {settings : Settings} {structs : List StructDecl}
    {columns : List ResultColumn} {decl : StructDecl}
    (reused : reusedStruct? settings structs columns = some decl) :
    (∃ table, table ≠ "" ∧ decl.table = some table) ∧ decl ∈ structs := by
  obtain ⟨table, common, found⟩ := Option.bind_eq_some_iff.1 reused
  have named := (commonTable?_eq_some_iff.1 common).2.1
  have same := List.find?_some found
  exact ⟨⟨table, named, (sameFields_iff.1 same).1⟩, List.mem_of_find?_eq_some found⟩

theorem closed_retValue
    (settings : Settings) (structs : List StructDecl) (query : Query)
    (columns : List ResultColumn) :
    (retValue settings structs query columns).Closed structs := by
  match columns with
  | [] => trivial
  | [_] => trivial
  | first :: second :: rest =>
      rw [retValue_of_two_le settings structs query (by simp)]
      split
      next reused found => exact mem_of_reusedStruct? found
      next => rfl

theorem closed_values_of_generate
    {settings : Settings} {schema : Schema} {slots : List (Option Query)}
    {output : Outcome}
    (generated : generate settings schema slots = .ok output)
    {method : QueryMethod} (member : method ∈ output.queries)
    {value : MethodValue} (inMethod : value ∈ [method.arg, method.ret]) :
    value.Closed output.structs := by
  obtain ⟨query, _, described⟩ := (mem_queries_of_generate_iff generated).1 member
  obtain ⟨_, command, _, rfl⟩ := boundQuery?_eq_some_iff.1 described
  rcases List.mem_cons.1 inMethod with rfl | inRest
  · exact closed_argValue settings output.structs query.name query.params
  · rw [List.mem_singleton.1 inRest]
    exact closed_retValue settings output.structs query (resultColumns settings query)

/-! ## Introduced structs -/

/-- The values of all methods in their order, what a method takes before what it
returns. -/
def Outcome.values (output : Outcome) : List MethodValue :=
  output.queries.flatMap fun method => [method.arg, method.ret]

theorem introducedStructs_eq_filterMap (output : Outcome) :
    output.introducedStructs = output.values.filterMap MethodValue.introduced? := by
  rw [Outcome.introducedStructs, Outcome.values, List.filterMap_flatMap]

theorem introduces_iff {value : MethodValue} :
    value.introduces = true ↔ ∃ name decl, value = .struct name decl true := by
  cases value with
  | absent => simp [MethodValue.introduces]
  | scalar name typeName => simp [MethodValue.introduces]
  | struct name decl emit => simp [MethodValue.introduces]

theorem introduced?_eq_some_iff {value : MethodValue} {decl : StructDecl} :
    value.introduced? = some decl ↔ ∃ name, value = .struct name decl true := by
  cases value with
  | absent => simp [MethodValue.introduced?, MethodValue.introduces]
  | scalar name typeName => simp [MethodValue.introduced?, MethodValue.introduces]
  | struct name introduced emit =>
      cases emit with
      | true => simp [MethodValue.introduced?, MethodValue.introduces, MethodValue.decl?]
      | false => simp [MethodValue.introduced?, MethodValue.introduces]

theorem introduced_in_order (values : List MethodValue) :
    List.Forall₂ (fun value decl => ∃ name, value = MethodValue.struct name decl true)
      (values.filter MethodValue.introduces)
      (values.filterMap MethodValue.introduced?) := by
  induction values with
  | nil => exact .nil
  | cons value rest inductionHypothesis =>
      by_cases introduces : value.introduces = true
      · obtain ⟨name, decl, rfl⟩ := introduces_iff.1 introduces
        exact .cons ⟨name, rfl⟩ inductionHypothesis
      · have nothing : value.introduced? = none := by
          rw [MethodValue.introduced?, if_neg introduces]
        rw [List.filter_cons_of_neg introduces, List.filterMap_cons_none nothing]
        exact inductionHypothesis

theorem mem_introducedStructs
    {output : Outcome} {method : QueryMethod} {name : String} {decl : StructDecl}
    (member : method ∈ output.queries)
    (inMethod : MethodValue.struct name decl true ∈ [method.arg, method.ret]) :
    decl ∈ output.introducedStructs := by
  rw [introducedStructs_eq_filterMap, List.mem_filterMap]
  exact ⟨.struct name decl true, List.mem_flatMap.2 ⟨method, member, inMethod⟩, rfl⟩

/-! ## All structs of a pass -/

theorem isOfTable_of_mem_structs
    {settings : Settings} {schema : Schema} {slots : List (Option Query)}
    {output : Outcome}
    (generated : generate settings schema slots = .ok output)
    {decl : StructDecl} (member : decl ∈ output.structs) :
    decl.isOfTable = true := by
  rw [structs_of_generate generated] at member
  obtain ⟨table, _, rfl⟩ := mem_schemaStructs_iff.1 member
  rfl

theorem not_isOfTable_of_mem_introducedStructs
    {settings : Settings} {schema : Schema} {slots : List (Option Query)}
    {output : Outcome}
    (generated : generate settings schema slots = .ok output)
    {decl : StructDecl} (member : decl ∈ output.introducedStructs) :
    decl.isOfTable = false := by
  rw [introducedStructs_eq_filterMap, List.mem_filterMap] at member
  obtain ⟨value, inValues, introduced⟩ := member
  obtain ⟨method, inQueries, inMethod⟩ := List.mem_flatMap.1 inValues
  have closed := closed_values_of_generate generated inQueries inMethod
  obtain ⟨name, rfl⟩ := introduced?_eq_some_iff.1 introduced
  have untabled : decl.table = none := closed
  rw [StructDecl.isOfTable, untabled]
  rfl

/-- Every struct value is defined exactly where its flag says, the introduced
structs are those of the values with the flag, and the list of all structs is
sorted by name, structs of tables first and otherwise in the given order. -/
theorem struct_references_closed
    {settings : Settings} {schema : Schema} {slots : List (Option Query)}
    {output : Outcome}
    (generated : generate settings schema slots = .ok output) :
    (∀ method ∈ output.queries, ∀ value ∈ [method.arg, method.ret],
      ∀ name decl emit, value = .struct name decl emit →
        emit = true ∧ decl.table = none ∧ decl ∈ output.introducedStructs ∨
          emit = false ∧ (∃ table, table ≠ "" ∧ decl.table = some table) ∧
            decl ∈ output.structs) ∧
    List.Forall₂ (fun value decl => ∃ name, value = MethodValue.struct name decl true)
      (output.values.filter MethodValue.introduces) output.introducedStructs ∧
    output.structsByName.Perm (output.structs ++ output.introducedStructs) ∧
    output.structsByName.Pairwise (fun left right => left.name ≤ right.name) ∧
    (∀ wanted, (output.structsByName.filter fun decl => decl.name = wanted) =
      (output.structs.filter fun decl => decl.name = wanted) ++
        output.introducedStructs.filter fun decl => decl.name = wanted) ∧
    (∀ decl ∈ output.structs, decl.isOfTable = true) ∧
    ∀ decl ∈ output.introducedStructs, decl.isOfTable = false := by
  refine ⟨?_, ?_, sortByKey_perm _ _, pairwise_sortByKey _ _, ?_, ?_, ?_⟩
  · intro method member value inMethod name decl emit isStruct
    subst isStruct
    have closed := closed_values_of_generate generated member inMethod
    cases emit with
    | true => exact .inl ⟨rfl, closed, mem_introducedStructs member inMethod⟩
    | false => exact .inr ⟨rfl, closed⟩
  · rw [introducedStructs_eq_filterMap]
    exact introduced_in_order output.values
  · intro wanted
    rw [Outcome.structsByName, filter_sortByKey, List.filter_append]
  · intro decl member
    exact isOfTable_of_mem_structs generated member
  · intro decl member
    exact not_isOfTable_of_mem_introducedStructs generated member

/-- A query with two parameters whose row struct is named like the struct of
another table. -/
def pickDevices : Query :=
  { name := "PickDevices", command := some .many,
    sql := "SELECT id, label FROM app_devices WHERE id BETWEEN ? AND ?",
    params := [{ name := "low", typeName := "int" }, { name := "high", typeName := "int" }],
    columns :=
      [{ label := some "id", nativeType := "int", notNull := true, table := "app_devices" },
       { label := some "label", nativeType := "varchar", table := "app_devices" }],
    annotations := { rowStructName := some "Account" } }

theorem pickDevices_structs_closed :
    generate deviceSettings deviceSchema [some pickDevices] =
        .ok (passOutcome deviceSettings deviceSchema [pickDevices]) ∧
      ((passOutcome deviceSettings deviceSchema [pickDevices]).structsByName.filter
          fun decl => decl.name = "Account") =
        [tableStruct deviceSettings accountTable,
          rowStruct deviceSettings pickDevices (resultColumns deviceSettings pickDevices)] := by
  have generated := generate_filled deviceSettings deviceSchema [pickDevices]
  obtain ⟨_, _, _, _, ties, _⟩ := struct_references_closed generated
  have tables :
      ((schemaStructs deviceSettings deviceSchema).filter
          fun decl => decl.name = "Account") =
        [tableStruct deviceSettings accountTable] := by
    rw [schemaStructs, filter_sortByKey]
    decide
  have notReused :
      reusedStruct? deviceSettings (schemaStructs deviceSettings deviceSchema)
        (resultColumns deviceSettings pickDevices) = none :=
    (reusedStruct?_eq_none_iff (by decide)).2 (by decide)
  have introduced :
      (passOutcome deviceSettings deviceSchema [pickDevices]).introducedStructs =
        [paramStruct deviceSettings "PickDevices" pickDevices.params,
          rowStruct deviceSettings pickDevices
            (resultColumns deviceSettings pickDevices)] := by
    have queries :
        (passOutcome deviceSettings deviceSchema [pickDevices]).queries =
          [describeQuery deviceSettings (schemaStructs deviceSettings deviceSchema)
            pickDevices .many (resultColumns deviceSettings pickDevices)] :=
      List.mergeSort_singleton _
    have several : 2 ≤ (resultColumns deviceSettings pickDevices).length := by decide
    have ret := retValue_of_two_le deviceSettings
      (schemaStructs deviceSettings deviceSchema) pickDevices several
    rw [notReused] at ret
    rw [Outcome.introducedStructs, queries, List.flatMap_singleton, describeQuery, ret]
    rfl
  refine ⟨generated, ?_⟩
  rw [ties, introduced]
  exact congrArg₂ (· ++ ·) tables (by decide)

end TypedSql
