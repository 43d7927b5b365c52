import Mathlib.Data.List.Nodup
import TypedSql.Proofs.ColumnTypes
import TypedSql.Proofs.SlotBinding

/-!
# Numbered fields of query structs

A field of a query struct is named by the identifier of its source and by how
many sources up to it have this identifier. An identifier that is made of a name
has no underscore, so numbered field names can be told apart unless a configured
name looks like one of them. Tags are made of the names themselves, which may
have underscores: a name can be the numbered tag of another one.
-/

namespace TypedSql

open Naming (identifier)
open Naming.UsedNames (numbered)

/-! ## Numbered texts -/

theorem numbered_one (text : String) : numbered text 1 = text :=
  rfl

theorem numbered_of_two_le {number : Nat} (repeated : 2 ≤ number) (text : String) :
    numbered text number = text ++ "_" ++ String.ofList (Nat.toDigits 10 number) := by
  rw [numbered, if_pos (show number > 1 from repeated)]

theorem toList_numbered_of_two_le {number : Nat} (repeated : 2 ≤ number) (text : String) :
    (numbered text number).toList = text.toList ++ '_' :: Nat.toDigits 10 number := by
  simp only [numbered_of_two_le repeated, String.toList_append, String.toList_ofList,
    List.append_assoc]
  rfl

theorem underscore_notMem_toDigits (number : Nat) : '_' ∉ Nat.toDigits 10 number := by
  intro member
  have digit := Nat.isDigit_of_mem_toDigits (by decide) (by decide) member
  exact absurd digit (by decide)

theorem toDigits_injective {number other : Nat}
    (same : Nat.toDigits 10 number = Nat.toDigits 10 other) : number = other := by
  have values := congrArg (fun digits => Nat.ofDigitChars 10 digits 0) same
  simpa only [Nat.ofDigitChars_ten_toDigits] using values

/-- What stands behind the last underscore and what stands in front of it can be
read off a text. -/
theorem append_cons_inj_of_notMem_right
    {separator : Char} {before after otherBefore otherAfter : List Char}
    (plain : separator ∉ after) (otherPlain : separator ∉ otherAfter)
    (same : before ++ separator :: after = otherBefore ++ separator :: otherAfter) :
    before = otherBefore ∧ after = otherAfter := by
  rcases List.append_eq_append_iff.1 same with ⟨more, longer, rest⟩ | ⟨more, longer, rest⟩
  · cases more with
    | nil => exact ⟨by rw [longer, List.append_nil], (List.cons.inj rest).2⟩
    | cons c more =>
        rw [(List.cons.inj rest).2] at plain
        exact absurd (List.mem_append_right more List.mem_cons_self) plain
  · cases more with
    | nil => exact ⟨by rw [longer, List.append_nil], (List.cons.inj rest).2.symm⟩
    | cons c more =>
        rw [(List.cons.inj rest).2] at otherPlain
        exact absurd (List.mem_append_right more List.mem_cons_self) otherPlain

/-- Two numbered texts are the same if their parts are, or if one of them has the
number one and reads like the other one. -/
theorem numbered_eq_numbered_cases
    {text other : String} {number otherNumber : Nat}
    (positive : 1 ≤ number) (otherPositive : 1 ≤ otherNumber)
    (same : numbered text number = numbered other otherNumber) :
    (text = other ∧ number = otherNumber) ∨
      (number = 1 ∧ 2 ≤ otherNumber ∧ text = numbered other otherNumber) ∨
      (otherNumber = 1 ∧ 2 ≤ number ∧ other = numbered text number) := by
  rcases Nat.lt_or_eq_of_le positive with repeated | rfl
  · rcases Nat.lt_or_eq_of_le otherPositive with otherRepeated | rfl
    · have letters := congrArg String.toList same
      rw [toList_numbered_of_two_le repeated, toList_numbered_of_two_le otherRepeated] at letters
      rcases append_cons_inj_of_notMem_right (underscore_notMem_toDigits number)
        (underscore_notMem_toDigits otherNumber) letters with ⟨texts, digits⟩
      exact .inl ⟨String.toList_inj.1 texts, toDigits_injective digits⟩
    · rw [numbered_one] at same
      exact .inr (.inr ⟨rfl, repeated, same.symm⟩)
  · rw [numbered_one] at same
    rcases Nat.lt_or_eq_of_le otherPositive with otherRepeated | rfl
    · exact .inr (.inl ⟨rfl, otherRepeated, same⟩)
    · rw [numbered_one] at same
      exact .inl ⟨same, rfl⟩

/-! ## The number of a field -/

/-- How many of the sources up to this one have its identifier. -/
def fieldNumber (settings : Settings) (earlier : List FieldSource) (item : FieldSource) : Nat :=
  (earlier.map fun other => identifier settings other.name).count
    (identifier settings item.name) + 1

/-- The field of a source that stands behind other ones. -/
def numberedField (settings : Settings) (earlier : List FieldSource) (item : FieldSource) :
    FieldDecl :=
  { name := numbered (identifier settings item.name) (fieldNumber settings earlier item),
    typeName := item.typeName,
    tag := numbered item.name (fieldNumber settings earlier item) }

theorem getElem?_assignAll
    (namer : Naming.UsedNames) (fields : List (String × String)) (i : Nat) :
    (namer.assignAll fields)[i]? = fields[i]?.map fun field =>
      let number := ((fields.take i).map Prod.fst).count field.1 + namer.occurrence field.1
      (numbered field.1 number, numbered field.2 number) := by
  induction fields generalizing namer i with
  | nil => rfl
  | cons first rest inductionHypothesis =>
      cases i with
      | zero =>
          simp only [Naming.UsedNames.assignAll, Naming.UsedNames.assign,
            List.getElem?_cons_zero, Option.map_some, List.take_zero, List.map_nil,
            List.count_nil, Nat.zero_add]
      | succ i =>
          rw [Naming.UsedNames.assignAll, List.getElem?_cons_succ, inductionHypothesis,
            List.getElem?_cons_succ]
          congr 1
          funext field
          have numbers :
              ((rest.take i).map Prod.fst).count field.1 +
                  (namer.assign first.1 first.2).2.occurrence field.1 =
                (((first :: rest).take (i + 1)).map Prod.fst).count field.1 +
                  namer.occurrence field.1 := by
            simp only [Naming.UsedNames.occurrence, Naming.UsedNames.assign,
              List.take_succ_cons, List.map_cons, List.count_cons]
            omega
          rw [numbers]

theorem getElem?_itemFields (settings : Settings) (items : List FieldSource) (i : Nat) :
    (itemFields settings items)[i]? =
      items[i]?.map (numberedField settings (items.take i)) := by
  rw [itemFields, List.getElem?_map, List.zip, List.getElem?_zipWith, itemNames,
    getElem?_assignAll, List.getElem?_map]
  cases items[i]? with
  | none => rfl
  | some item =>
      have numbers :
          (((items.map fun other => (identifier settings other.name, other.name)).take i).map
              Prod.fst).count (identifier settings item.name) +
            Naming.UsedNames.occurrence {} (identifier settings item.name) =
          fieldNumber settings (items.take i) item := by
        rw [← List.map_take, List.map_map]
        rfl
      simp only [Option.map_some, numberedField, numbers]

/-- Of two sources with the same identifier, the later one has the higher number. -/
theorem fieldNumber_lt
    {settings : Settings} {items : List FieldSource} {item other : FieldSource} {i j : Nat}
    (before : i < j) (atFirst : items[i]? = some item)
    (same : identifier settings item.name = identifier settings other.name) :
    fieldNumber settings (items.take i) item < fieldNumber settings (items.take j) other := by
  have upToItem : items.take (i + 1) = items.take i ++ [item] := by
    rw [List.take_add_one, atFirst]
    rfl
  have longer : (items.take (i + 1)).Sublist (items.take j) :=
    List.take_sublist_take_left before
  have counted := (longer.map fun earlier => identifier settings earlier.name).count_le
    (identifier settings other.name)
  rw [upToItem, List.map_append, List.count_append] at counted
  simp only [List.map_cons, List.map_nil, same, List.count_cons_self] at counted
  rw [fieldNumber, fieldNumber, same]
  omega

theorem fieldNumber_ne
    {settings : Settings} {items : List FieldSource} {item other : FieldSource} {i j : Nat}
    (different : i ≠ j) (atFirst : items[i]? = some item) (atSecond : items[j]? = some other)
    (same : identifier settings item.name = identifier settings other.name) :
    fieldNumber settings (items.take i) item ≠ fieldNumber settings (items.take j) other := by
  rcases Nat.lt_or_gt_of_ne different with before | after
  · exact Nat.ne_of_lt (fieldNumber_lt before atFirst same)
  · exact Nat.ne_of_gt (fieldNumber_lt after atSecond same.symm)

/-- Some part of the fields is different for all of them if it is for every two
sources. -/
theorem nodup_map_itemFields_iff
    {settings : Settings} {items : List FieldSource} {part : FieldDecl → String} :
    ((itemFields settings items).map part).Nodup ↔
      ∀ (i j : Nat) item other, i ≠ j → items[i]? = some item → items[j]? = some other →
        part (numberedField settings (items.take i) item) ≠
          part (numberedField settings (items.take j) other) := by
  have parts (i : Nat) : ((itemFields settings items).map part)[i]? =
      items[i]?.map fun item => part (numberedField settings (items.take i) item) := by
    rw [List.getElem?_map, getElem?_itemFields, Option.map_map]
    rfl
  constructor
  · intro nodup i j item other different atFirst atSecond same
    have first := parts i
    have second := parts j
    rw [atFirst, Option.map_some] at first
    rw [atSecond, Option.map_some, ← same] at second
    have inRange := (List.getElem?_eq_some_iff.1 first).1
    exact different ((List.getElem?_inj inRange nodup).1 (first.trans second.symm))
  · intro distinct
    rw [List.nodup_iff_getElem?_ne_getElem?]
    intro i j before inRange same
    have found := List.getElem?_eq_getElem inRange
    have second := found
    rw [parts, Option.map_eq_some_iff] at second
    rcases second with ⟨other, atSecond, value⟩
    rw [found, parts, Option.map_eq_some_iff] at same
    rcases same with ⟨item, atFirst, equal⟩
    exact distinct i j item other (Nat.ne_of_lt before) atFirst atSecond
      (equal.trans value.symm)

/-! ## Field names -/

/-- The settings give a source an identifier that reads like the numbered
identifier of another one. -/
def LooksNumbered (settings : Settings) (item other : FieldSource) : Prop :=
  settings.rename? item.name = some (identifier settings item.name) ∧
    ∃ number, 2 ≤ number ∧
      identifier settings item.name =
        identifier settings other.name ++ "_" ++ String.ofList (Nat.toDigits 10 number)

theorem looksNumbered_of_eq_numbered
    {settings : Settings} {item other : FieldSource} {number : Nat} (repeated : 2 ≤ number)
    (reads : identifier settings item.name =
      numbered (identifier settings other.name) number) :
    LooksNumbered settings item other := by
  have underscore : '_' ∈ (identifier settings item.name).toList := by
    rw [reads, toList_numbered_of_two_le repeated]
    exact List.mem_append_right _ List.mem_cons_self
  rw [numbered_of_two_le repeated] at reads
  exact ⟨Naming.rename?_of_underscore_mem_identifier underscore, number, repeated, reads⟩

theorem looksNumbered_of_same_name
    {settings : Settings} {items : List FieldSource} {item other : FieldSource} {i j : Nat}
    (different : i ≠ j) (atFirst : items[i]? = some item) (atSecond : items[j]? = some other)
    (same : (numberedField settings (items.take i) item).name =
      (numberedField settings (items.take j) other).name) :
    LooksNumbered settings item other ∨ LooksNumbered settings other item := by
  rcases numbered_eq_numbered_cases (Nat.le_add_left 1 _) (Nat.le_add_left 1 _) same with
    ⟨identifiers, numbers⟩ | ⟨_, repeated, reads⟩ | ⟨_, repeated, reads⟩
  · exact absurd numbers (fieldNumber_ne different atFirst atSecond identifiers)
  · exact .inl (looksNumbered_of_eq_numbered repeated reads)
  · exact .inr (looksNumbered_of_eq_numbered repeated reads)

theorem mem_renames_of_rename?
    {settings : Settings} {name target : String}
    (renamed : settings.rename? name = some target) :
    ∃ entry ∈ settings.renames.entries, entry.2 = target := by
  have given := (Option.filter_eq_some_iff.1 renamed).1
  rcases Option.map_eq_some_iff.1 given with ⟨entry, found, value⟩
  exact ⟨entry, List.mem_of_find?_eq_some found, value⟩

/-- No configured name has an underscore. -/
def Settings.PlainRenames (settings : Settings) : Prop :=
  ∀ entry ∈ settings.renames.entries, '_' ∉ entry.2.toList

theorem not_looksNumbered_of_plainRenames
    {settings : Settings} (plain : settings.PlainRenames) (item other : FieldSource) :
    ¬ LooksNumbered settings item other := by
  intro looks
  rcases looks with ⟨renamed, number, repeated, reads⟩
  rcases mem_renames_of_rename? renamed with ⟨entry, member, target⟩
  apply plain entry member
  rw [target, reads]
  simp

theorem nodup_names_of_plainRenames
    {settings : Settings} (plain : settings.PlainRenames) (items : List FieldSource) :
    ((itemFields settings items).map FieldDecl.name).Nodup := by
  rw [nodup_map_itemFields_iff]
  intro i j item other different atFirst atSecond same
  rcases looksNumbered_of_same_name different atFirst atSecond same with looks | looks
  · exact not_looksNumbered_of_plainRenames plain item other looks
  · exact not_looksNumbered_of_plainRenames plain other item looks

/-- A struct that a query introduces is made of a list of sources. -/
theorem exists_items_of_introduced
    {settings : Settings} {structs : List StructDecl} {query : Query} {method : QueryMethod}
    (binds : BindsTo settings structs query method)
    {name : String} {decl : StructDecl}
    (introduced : MethodValue.struct name decl true ∈ [method.arg, method.ret]) :
    ∃ items, decl.fields = itemFields settings items := by
  rcases boundQuery?_eq_some_iff.1 (boundQuery?_of_bindsTo binds) with ⟨_, command, _, rfl⟩
  rcases List.mem_cons.1 introduced with isArg | isRet
  · rw [eq_paramStruct_of_argValue isArg.symm]
    exact ⟨_, rfl⟩
  · rw [eq_rowStruct_of_retValue (List.mem_singleton.1 isRet).symm]
    exact ⟨_, rfl⟩

/-- Fields of a query struct stand in the order of their sources, and two of them
share a name only if a configured name looks numbered. So the names differ in
every struct that a query introduces when no configured name has an underscore. -/
theorem query_fields_differ_up_to_renames (settings : Settings) :
    (∀ structName items,
      (queryStruct settings structName items).fields.map FieldDecl.typeName =
          items.map FieldSource.typeName ∧
      (∀ i : Nat, (queryStruct settings structName items).fields[i]? =
        items[i]?.map (numberedField settings (items.take i))) ∧
      ∀ (i j : Nat) item other (field otherField : FieldDecl), i ≠ j →
        items[i]? = some item → items[j]? = some other →
        (queryStruct settings structName items).fields[i]? = some field →
        (queryStruct settings structName items).fields[j]? = some otherField →
        field.name = otherField.name →
        LooksNumbered settings item other ∨ LooksNumbered settings other item) ∧
    (settings.PlainRenames → ∀ structs query method,
      BindsTo settings structs query method →
      ∀ name decl, MethodValue.struct name decl true ∈ [method.arg, method.ret] →
        (decl.fields.map FieldDecl.name).Nodup) := by
  refine ⟨?_, ?_⟩
  · intro structName items
    refine ⟨typeNames_itemFields settings items, getElem?_itemFields settings items, ?_⟩
    intro i j item other field otherField different atFirst atSecond first second same
    have firstField : (itemFields settings items)[i]? = some field := first
    have secondField : (itemFields settings items)[j]? = some otherField := second
    rw [getElem?_itemFields, atFirst, Option.map_some, Option.some.injEq] at firstField
    rw [getElem?_itemFields, atSecond, Option.map_some, Option.some.injEq] at secondField
    rw [← firstField, ← secondField] at same
    exact looksNumbered_of_same_name different atFirst atSecond same
  · intro plain structs query method binds name decl introduced
    rcases exists_items_of_introduced binds introduced with ⟨items, fields⟩
    rw [fields]
    exact nodup_names_of_plainRenames plain items

/-- The mate of a pair gets the field name that the second one of two identifiers
has by its number. -/
def mateSettings : Settings :=
  Settings.withRename {} "mate" "ID_2"

def pairItems : List FieldSource :=
  [⟨"id", "int"⟩, ⟨"id", "int"⟩, ⟨"mate", "int"⟩]

def urlSettings : Settings :=
  Settings.withRename {} "url" "URL"

/-- A query of which no result column has a name of its own. -/
def listLinks : Query :=
  { name := "ListLinks", command := some .many,
    sql := "SELECT l.url, r.url, 1 FROM links l JOIN links r ON r.source = l.id",
    columns :=
      [{ label := some "url", nativeType := "text", table := "links" },
       { label := some "url", nativeType := "text", table := "links" },
       { nativeType := "int", notNull := true }] }

theorem mate_shares_numbered_field :
    (∃ field otherField : FieldDecl,
      (queryStruct mateSettings "Pair" pairItems).fields[1]? = some field ∧
      (queryStruct mateSettings "Pair" pairItems).fields[2]? = some otherField ∧
      field.name = otherField.name ∧
      (LooksNumbered mateSettings ⟨"id", "int"⟩ ⟨"mate", "int"⟩ ∨
        LooksNumbered mateSettings ⟨"mate", "int"⟩ ⟨"id", "int"⟩)) ∧
    urlSettings.PlainRenames ∧
    ∃ method decl, BindsTo urlSettings [] listLinks method ∧
      method.ret = .struct rowVariable decl true ∧
      decl.fields.map FieldDecl.name = ["URL", "URL_2", "Column3"] ∧
      (decl.fields.map FieldDecl.name).Nodup := by
  refine ⟨⟨_, _, rfl, rfl, by decide, ?_⟩, ?_⟩
  · rcases (query_fields_differ_up_to_renames mateSettings).1 "Pair" pairItems with
      ⟨_, _, collide⟩
    exact collide 1 2 _ _ _ _ (by decide) rfl rfl rfl rfl (by decide)
  · have plain : urlSettings.PlainRenames := by
      rw [Settings.PlainRenames]
      decide
    have bound : listLinks.isBound = true := by decide
    rcases boundQuery?_of_isBound urlSettings [] bound with ⟨command, described⟩
    have binds := bindsTo_of_boundQuery? described
    refine ⟨plain, _, rowStruct urlSettings listLinks (resultColumns urlSettings listLinks),
      binds, rfl, by decide, ?_⟩
    apply (query_fields_differ_up_to_renames urlSettings).2 plain [] listLinks _ binds rowVariable
    exact List.mem_cons_of_mem _ List.mem_cons_self

/-! ## Tags -/

/-- Two tags meet exactly where the first source of an identifier is called like
the numbered tag of a repeated one. -/
theorem tags_nodup_iff
    (settings : Settings) (structName : String) (items : List FieldSource) :
    ((queryStruct settings structName items).fields.map FieldDecl.tag).Nodup ↔
      ∀ (i j : Nat) item other, items[i]? = some item → items[j]? = some other →
        fieldNumber settings (items.take i) item = 1 →
        2 ≤ fieldNumber settings (items.take j) other →
        item.name ≠ numbered other.name (fieldNumber settings (items.take j) other) := by
  rw [show (queryStruct settings structName items).fields = itemFields settings items from rfl,
    nodup_map_itemFields_iff]
  constructor
  · intro distinct i j item other atFirst atSecond first repeated same
    have different : i ≠ j := by
      rintro rfl
      rw [atFirst, Option.some.injEq] at atSecond
      subst atSecond
      omega
    apply distinct i j item other different atFirst atSecond
    simp only [numberedField, first, numbered_one]
    exact same
  · intro apart i j item other different atFirst atSecond same
    rcases numbered_eq_numbered_cases (Nat.le_add_left 1 _) (Nat.le_add_left 1 _) same with
      ⟨names, numbers⟩ | ⟨first, repeated, reads⟩ | ⟨first, repeated, reads⟩
    · exact absurd numbers (fieldNumber_ne different atFirst atSecond (by rw [names]))
    · exact apart i j item other atFirst atSecond first repeated reads
    · exact apart j i other item atSecond atFirst first repeated reads

/-- The third field is the second one called `x`, and its tag is the name of the
first field. -/
def clashingTags : List FieldSource :=
  [⟨"x_2", "int"⟩, ⟨"x", "int"⟩, ⟨"x", "int"⟩]

theorem clashingTags_not_nodup :
    ¬ ((queryStruct {} "PairRow" clashingTags).fields.map FieldDecl.tag).Nodup := by
  decide

end TypedSql
