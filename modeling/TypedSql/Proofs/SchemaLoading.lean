import TypedSql.Proofs.InputRoundTrip

/-!
# Loading schemas

A map of tables is loaded in the order of its keys: each table takes hold of its
columns and goes under its own name, and the last table of a name stays. A schema
that is written and read back keeps its tables and their order. Only the owners of
columns may change, and only once.
-/

namespace TypedSql

/-- Tables that differ at most in the tables that their columns name. -/
def Table.SameExceptOwners (table other : Table) : Prop :=
  table.name = other.name ∧
    List.Forall₂ (fun column relabelled => ∃ owner, relabelled = column.inTable owner)
      table.columns other.columns

namespace NameMap

/-- The key is the greatest one under which a table of this name stands. -/
def LastNamed (tables : NameMap Table) (key : String) (table : Table) : Prop :=
  (key, table) ∈ tables.entries ∧
    ∀ pair ∈ tables.entries, pair.2.name = table.name → pair.1 ≤ key

/-- The same keys, and tables that differ at most in what their columns name. -/
def SameExceptOwners (tables others : NameMap Table) : Prop :=
  List.Forall₂ (fun pair other => pair.1 = other.1 ∧ pair.2.SameExceptOwners other.2)
    tables.entries others.entries

theorem lastNamed_of_find?_reverse
    {tables : NameMap Table} {name : String} {pair : String × Table}
    (found : (tables.entries.reverse.find? fun other => other.2.name = name) = some pair) :
    tables.LastNamed pair.1 pair.2 ∧ pair.2.name = name := by
  obtain ⟨named, behind, front, split, skipped⟩ := List.find?_eq_some_iff_append.1 found
  have sameName : pair.2.name = name := of_decide_eq_true named
  have descending : (behind ++ pair :: front).Pairwise fun left right => right.1 < left.1 := by
    rw [← split]
    exact List.pairwise_reverse.2 tables.ascending
  have mem_iff : ∀ other, other ∈ tables.entries ↔ other ∈ behind ++ pair :: front := by
    intro other
    rw [← split, List.mem_reverse]
  refine ⟨⟨(mem_iff pair).2 List.mem_append_cons_self, ?_⟩, sameName⟩
  intro other member otherName
  rw [mem_iff, List.mem_append, List.mem_cons] at member
  rcases member with inBehind | same | inFront
  · have refused := skipped other inBehind
    simp [otherName, sameName] at refused
  · subst same
    exact String.le_refl other.1
  · have later := (List.pairwise_cons.1 (List.pairwise_append.1 descending).2.1).1 other inFront
    exact Std.le_of_lt later

/-- The greatest key is found first from behind. -/
theorem find?_reverse_eq_some_iff
    {tables : NameMap Table} {name key : String} {table : Table} :
    (tables.entries.reverse.find? fun pair => pair.2.name = name) = some (key, table) ↔
      tables.LastNamed key table ∧ table.name = name := by
  constructor
  · exact lastNamed_of_find?_reverse
  · intro greatest
    obtain ⟨⟨member, greatest⟩, named⟩ := greatest
    -- The search finds a table of this name under its greatest key, and there is only one.
    have somewhere :
        (tables.entries.reverse.find? fun pair => pair.2.name = name).isSome := by
      rw [List.find?_isSome]
      exact ⟨(key, table), List.mem_reverse.2 member, decide_eq_true named⟩
    obtain ⟨other, found⟩ := Option.isSome_iff_exists.1 somewhere
    obtain ⟨⟨otherMember, otherGreatest⟩, otherNamed⟩ := lastNamed_of_find?_reverse found
    have sameKey : other.1 = key := by
      apply String.le_antisymm
      · exact greatest other otherMember (otherNamed.trans named.symm)
      · exact otherGreatest (key, table) member (named.trans otherNamed.symm)
    have same : other = (key, table) := Catalog.eq_of_mem_of_name_eq otherMember member sameKey
    rw [found, same]

end NameMap

theorem Table.SameExceptOwners.stamp_eq
    {table other : Table} (same : table.SameExceptOwners other) : table.stamp = other.stamp := by
  obtain ⟨sameName, sameColumns⟩ := same
  have stampedColumns :
      (table.columns.map fun column => column.inTable table.name) =
        other.columns.map fun column => column.inTable other.name := by
    apply map_eq_of_forall₂ sameColumns
    intro column relabelled relabels
    obtain ⟨owner, rfl⟩ := relabels
    rw [sameName]
    rfl
  rw [stamp, stamp, stampedColumns, sameName]

namespace Schema

/-! ## Tables under their names -/

/-- The tables of a schema, each under its name. -/
def toMap (schema : Schema) : NameMap Table where
  entries := schema.entries.map fun table => (table.name, table)
  ascending := List.pairwise_map.2 schema.ascending

theorem find?_toMap (schema : Schema) (name : String) :
    schema.toMap.find? name = (schema.find? name).map fun table => (table.name, table) := by
  rw [Catalog.find?, Catalog.find?, toMap, List.find?_map]
  rfl

theorem toMap_insert (schema : Schema) (table : Table) :
    toMap (schema.insert table) = NameMap.set schema.toMap table.name table := by
  apply Catalog.ext_find?
  intro wanted
  rw [find?_toMap, NameMap.set]
  by_cases same : wanted = table.name
  · rw [same, Catalog.find?_insert_self]
    exact (Catalog.find?_insert_self schema.toMap (table.name, table)).symm
  · rw [Catalog.find?_insert_of_ne schema same, Catalog.find?_insert_of_ne schema.toMap same,
      find?_toMap]

/-- The map that is filled with the tables of another map: each table is stamped
and put under its own name. -/
def fill (tables : NameMap Table) : NameMap Table :=
  tables.entries.foldl (fun held pair => held.set pair.2.name pair.2.stamp) .empty

theorem toMap_insertMany_stamp (schema : Schema) (pairs : List (String × Table)) :
    toMap (schema.insertMany (pairs.map fun pair => pair.2.stamp)) =
      pairs.foldl (fun held pair => NameMap.set held pair.2.name pair.2.stamp) schema.toMap := by
  induction pairs generalizing schema with
  | nil => rfl
  | cons pair pairs inductionHypothesis =>
      have afterFirst := inductionHypothesis (schema.insert pair.2.stamp)
      rw [toMap_insert, Table.name_stamp] at afterFirst
      exact afterFirst

theorem toMap_ofMap (tables : NameMap Table) : (ofMap tables).toMap = fill tables :=
  toMap_insertMany_stamp .empty tables.entries

/-- A map of tables and a schema that the same operations make. -/
inductive Reached : NameMap Table → Schema → Prop
  | empty : Reached .empty .empty
  | insert {held : NameMap Table} {schema : Schema} (table : Table)
      (before : Reached held schema) :
      Reached (held.set table.name table) (schema.insert table)
  | load (tables : NameMap Table) : Reached (fill tables) (ofMap tables)

theorem Reached.eq_toMap {held : NameMap Table} {schema : Schema}
    (reached : Reached held schema) : held = schema.toMap := by
  induction reached with
  | empty => rfl
  | insert table _ inductionHypothesis => rw [toMap_insert, inductionHypothesis]
  | load tables => rw [toMap_ofMap]

theorem Reached.key_eq_name {held : NameMap Table} {schema : Schema}
    (reached : Reached held schema) : ∀ pair ∈ held.entries, pair.1 = pair.2.name := by
  intro pair member
  rw [reached.eq_toMap] at member
  obtain ⟨table, _, rfl⟩ := List.mem_map.1 member
  rfl

theorem Reached.tables_eq {held : NameMap Table} {schema : Schema}
    (reached : Reached held schema) : held.entries.map Prod.snd = schema.entries := by
  rw [reached.eq_toMap, toMap, List.map_map]
  exact List.map_id schema.entries

/-! ## Tables of a loaded map -/

theorem find?_ofMap (tables : NameMap Table) (name : String) :
    (ofMap tables).find? name =
      (tables.entries.reverse.find? fun pair => pair.2.name = name).map fun pair =>
        pair.2.stamp := by
  rw [ofMap, Catalog.ofList, Catalog.find?_insertMany, Catalog.find?_empty, Option.or_none,
    ← List.map_reverse, List.find?_map]
  rfl

theorem find?_ofMap_eq_some_iff {tables : NameMap Table} {name : String} {loaded : Table} :
    (ofMap tables).find? name = some loaded ↔
      ∃ key table, tables.LastNamed key table ∧ table.name = name ∧ loaded = table.stamp := by
  rw [find?_ofMap, Option.map_eq_some_iff]
  constructor
  · intro found
    obtain ⟨⟨key, table⟩, found, stamped⟩ := found
    obtain ⟨greatest, named⟩ := NameMap.find?_reverse_eq_some_iff.1 found
    exact ⟨key, table, greatest, named, stamped.symm⟩
  · intro greatest
    obtain ⟨key, table, greatest, named, stamped⟩ := greatest
    exact ⟨(key, table), NameMap.find?_reverse_eq_some_iff.2 ⟨greatest, named⟩, stamped.symm⟩

theorem mem_names_ofMap {tables : NameMap Table} {name : String} :
    name ∈ (ofMap tables).names ↔ ∃ pair ∈ tables.entries, pair.2.name = name := by
  have isName : name ∈ (ofMap tables).names ↔ ((ofMap tables).find? name).isSome := by
    simp [Catalog.names, Catalog.find?]
  rw [isName, find?_ofMap, Option.isSome_map, List.find?_isSome]
  simp

theorem ofMap_eq_of_sameExceptOwners {tables others : NameMap Table}
    (same : tables.SameExceptOwners others) : ofMap others = ofMap tables := by
  have sameStamped :
      (tables.entries.map fun pair => pair.2.stamp) =
        others.entries.map fun pair => pair.2.stamp := by
    apply map_eq_of_forall₂ same
    intro pair other samePair
    exact samePair.2.stamp_eq
  rw [ofMap, ofMap, sameStamped]

/-! ## Reading a written schema -/

/-- The schema with every table stamped. -/
def stamp (schema : Schema) : Schema where
  entries := schema.entries.map Table.stamp
  ascending := List.pairwise_map.2 schema.ascending

theorem toJson_eq (schema : Schema) :
    schema.toJson = NameMap.toJson Table.toJson schema.toMap := by
  rw [toJson, NameMap.toJson, toMap, List.map_map]
  rfl

theorem ofText_render (schema : Schema) :
    Draft.ofText schema.toJson.render = (schema.toJson.draft, true) := by
  rw [toJson_eq]
  exact (Faithful.nameMap Table.faithful).ofText_render schema.toMap

theorem read_toJson (schema : Schema) : Schema.read schema.toJson.draft = .ok schema.stamp := by
  have loaded : ofMap schema.toMap = schema.stamp := by
    rw [ofMap, toMap, List.map_map]
    exact schema.stamp.ofList_entries
  rw [read, toJson_eq, (Faithful.nameMap Table.faithful).readsBack]
  exact congrArg Except.ok loaded

theorem stamped_stamp (schema : Schema) : schema.stamp.Stamped := by
  intro table member
  obtain ⟨original, _, rfl⟩ := List.mem_map.1 member
  exact original.stamped_stamp

theorem stamp_eq_self_iff {schema : Schema} : schema.stamp = schema ↔ schema.Stamped := by
  constructor
  · intro same
    rw [← same]
    exact schema.stamped_stamp
  · intro stamped
    have unchanged : schema.entries.map Table.stamp = schema.entries.map id := by
      apply List.map_congr_left
      intro table member
      exact Table.stamp_eq_self_iff.2 (stamped table member)
    rw [List.map_id] at unchanged
    cases schema
    simp only [stamp, unchanged]

end Schema

/-- Every table of a schema stands under its own name. Of the tables of a name in a
loaded map, the one under the greatest key stays, and it takes hold of its columns.
Reading a written schema does the same and nothing more. -/
theorem schema_load_reload :
    (∀ (held : NameMap Table) (schema : Schema), Schema.Reached held schema →
      held.entries.map Prod.snd = schema.entries ∧
      (∀ pair ∈ held.entries, pair.1 = pair.2.name) ∧
      schema.toJson = NameMap.toJson Table.toJson held ∧
      schema.entries.Pairwise fun table other => table.name < other.name) ∧
    (∀ tables : NameMap Table,
      (∀ draft, Draft.readMap Table.read draft = .ok tables →
        Schema.read draft = .ok (Schema.ofMap tables)) ∧
      (∀ name, name ∈ (Schema.ofMap tables).names ↔
        ∃ pair ∈ tables.entries, pair.2.name = name) ∧
      (∀ name loaded, (Schema.ofMap tables).find? name = some loaded ↔
        ∃ key table, tables.LastNamed key table ∧ table.name = name ∧
          loaded = { table with
            columns := table.columns.map fun column => { column with table := name } }) ∧
      (∀ others, tables.SameExceptOwners others →
        Schema.ofMap others = Schema.ofMap tables)) ∧
    (∀ schema : Schema, Draft.ofText schema.toJson.render = (schema.toJson.draft, true) ∧
      ∃ reloaded, Schema.read schema.toJson.draft = .ok reloaded ∧
        reloaded.entries = schema.entries.map (fun table =>
          { table with
            columns := table.columns.map fun column => { column with table := table.name } }) ∧
        Schema.read reloaded.toJson.draft = .ok reloaded ∧
        (reloaded = schema ↔
          ∀ table ∈ schema.entries, ∀ column ∈ table.columns, column.table = table.name)) := by
  refine ⟨?_, ?_, ?_⟩
  · intro held schema reached
    have sameJson : schema.toJson = NameMap.toJson Table.toJson held := by
      rw [schema.toJson_eq, reached.eq_toMap]
    exact ⟨reached.tables_eq, reached.key_eq_name, sameJson, schema.ascending⟩
  · intro tables
    refine ⟨?_, fun name => Schema.mem_names_ofMap, ?_, fun others =>
      Schema.ofMap_eq_of_sameExceptOwners⟩
    · intro draft decoded
      rw [Schema.read, decoded]
      rfl
    · intro name loaded
      rw [Schema.find?_ofMap_eq_some_iff]
      refine exists_congr fun key => exists_congr fun table => and_congr_right fun _ => ?_
      apply and_congr_right
      intro named
      rw [← named]
      rfl
  · intro schema
    have reloadedTwice := schema.stamp.read_toJson
    rw [Schema.stamp_eq_self_iff.2 schema.stamped_stamp] at reloadedTwice
    refine ⟨schema.ofText_render, schema.stamp, schema.read_toJson, rfl, reloadedTwice, ?_⟩
    exact Schema.stamp_eq_self_iff

/-- Two tables of one name under different keys. -/
def clashingTables : NameMap Table where
  entries :=
    [("a", { name := "users", columns := [.named "id" "int"] }),
     ("b", { name := "users", columns := [(Column.named "email" "text").inTable "people"] }),
     ("c", { name := "devices" })]
  ascending := by decide

theorem second_of_clashing_tables_stays :
    Schema.Reached (Schema.fill clashingTables) (Schema.ofMap clashingTables) ∧
    (∀ pair ∈ (Schema.fill clashingTables).entries, pair.1 = pair.2.name) ∧
    (Schema.ofMap clashingTables).find? "users" =
      some { name := "users", columns := [(Column.named "email" "text").inTable "users"] } := by
  have reached := Schema.Reached.load clashingTables
  have second : clashingTables.LastNamed "b"
      { name := "users", columns := [(Column.named "email" "text").inTable "people"] } := by
    refine ⟨.tail _ (.head _), ?_⟩
    decide
  refine ⟨reached, (schema_load_reload.1 _ _ reached).2.1, ?_⟩
  exact ((schema_load_reload.2.1 clashingTables).2.2.1 "users" _).2 ⟨"b", _, second, rfl, rfl⟩

end TypedSql
