import TypedSql.Json.Decode
import TypedSql.Proofs.JsonText
import TypedSql.Proofs.SchemaInsertion
import TypedSql.Settings.Json

/-!
# Reading written values

A writer and a reader are faithful when what is written is always read back. Texts
and flags are faithful, and optional values, lists, maps and records of faithful
parts are faithful again. A record needs pairwise distinct keys for this.
-/

namespace TypedSql

namespace Json

theorem draftItems_eq_map (items : List Json) : draftItems items = items.map draft := by
  induction items with
  | nil => rfl
  | cons item items inductionHypothesis =>
      rw [draftItems, inductionHypothesis, List.map_cons]

theorem numberlessItems_of_forall
    {items : List Json} (each : ∀ item ∈ items, item.numberless = true) :
    numberlessItems items = true := by
  induction items with
  | nil => rfl
  | cons item items inductionHypothesis =>
      rw [List.forall_mem_cons] at each
      rw [numberlessItems, each.1, inductionHypothesis each.2, Bool.and_self]

theorem numberlessMembers_of_forall
    {members : List (String × Json)} (each : ∀ member ∈ members, member.2.numberless = true) :
    numberlessMembers members = true := by
  induction members with
  | nil => rfl
  | cons member members inductionHypothesis =>
      rw [List.forall_mem_cons] at each
      rw [numberlessMembers, each.1, inductionHypothesis each.2, Bool.and_self]

mutual

/-- Every part of a written value has a meaning. -/
theorem sound_draft : ∀ content : Json, content.draft.sound = true
  | null => rfl
  | bool _ => rfl
  | number _ => rfl
  | text _ => rfl
  | array items => soundItems_draftItems items
  | object members => soundMembers_draftMembers members

theorem soundItems_draftItems : ∀ items : List Json, Draft.soundItems (draftItems items) = true
  | [] => rfl
  | item :: items => by
      rw [draftItems, Draft.soundItems, sound_draft item, soundItems_draftItems items,
        Bool.and_self]

theorem soundMembers_draftMembers :
    ∀ members : List (String × Json), Draft.soundMembers (draftMembers members) = true
  | [] => rfl
  | (key, content) :: members => by
      rw [draftMembers, Draft.soundMembers, sound_draft content,
        soundMembers_draftMembers members]
      rfl

end

end Json

/-! ## Faithful readers and writers -/

/-- What is written holds no numbers, and it is always read back. -/
structure Faithful {α : Type} (read : Draft → Except Fault α) (write : α → Json) : Prop where
  readsBack : ∀ value, read (write value).draft = .ok value
  numberless : ∀ value, (write value).numberless = true

namespace Faithful

variable {α : Type} {read : Draft → Except Fault α} {write : α → Json}

theorem ofText_render (faithful : Faithful read write) (value : α) :
    Draft.ofText (write value).render = ((write value).draft, true) :=
  Draft.ofText_render (faithful.numberless value)

theorem text : Faithful Draft.readText Json.text :=
  ⟨fun _ => rfl, fun _ => rfl⟩

theorem flag : Faithful Draft.readFlag Json.bool :=
  ⟨fun _ => rfl, fun _ => rfl⟩

/-- An optional value is faithful if no value is written as `null`. -/
theorem option (faithful : Faithful read write) (filled : ∀ value, (write value).draft ≠ .null) :
    Faithful (Draft.readOption read) (Json.ofOption write) where
  readsBack
    | none => rfl
    | some value => by
        rw [Json.ofOption, Draft.readOption, faithful.readsBack]
        · rfl
        · exact filled value
  numberless
    | none => rfl
    | some value => faithful.numberless value

theorem list (faithful : Faithful read write) :
    Faithful (Draft.readList read) (Json.ofList write) where
  readsBack values := by
    rw [Json.ofList, Json.draft, Json.draftItems_eq_map, Draft.readList, List.map_map]
    induction values with
    | nil => rfl
    | cons value values inductionHypothesis =>
        rw [List.map_cons, List.mapM_cons, inductionHypothesis, Function.comp_apply,
          faithful.readsBack]
        rfl
  numberless values := by
    apply Json.numberlessItems_of_forall
    intro item member
    obtain ⟨value, _, rfl⟩ := List.mem_map.1 member
    exact faithful.numberless value

/-- The pairs of a written map are added to a map one after the other. -/
theorem readPairs_draftMembers
    (faithful : Faithful read write) (pairs : List (String × α)) (map : NameMap α) :
    Draft.readPairs read map
        (Json.draftMembers (pairs.map fun pair => (pair.1, write pair.2))) =
      .ok (map.insertMany pairs) := by
  induction pairs generalizing map with
  | nil => rfl
  | cons pair pairs inductionHypothesis =>
      rw [List.map_cons, Json.draftMembers, Draft.readPairs, faithful.readsBack]
      exact inductionHypothesis (map.set pair.1 pair.2)

theorem nameMap (faithful : Faithful read write) :
    Faithful (Draft.readMap read) (NameMap.toJson write) where
  readsBack map := by
    rw [NameMap.toJson, Json.draft, Draft.readMap, faithful.readPairs_draftMembers]
    exact congrArg Except.ok map.ofList_entries
  numberless map := by
    apply Json.numberlessMembers_of_forall
    intro entry member
    obtain ⟨pair, _, rfl⟩ := List.mem_map.1 member
    exact faithful.numberless pair.2

end Faithful

/-! ## Records -/

namespace RecordFormat

variable {α ρ : Type}

/-- The members give the fields in their order, and turn the first record into the
last one. -/
inductive Writes : List (RecordField ρ) → ρ → List (String × Json) → ρ → Prop
  | nil (record : ρ) : Writes [] record [] record
  | cons {field : RecordField ρ} {fields : List (RecordField ρ)} {record changed final : ρ}
      {content : Json} {members : List (String × Json)}
      (numberless : content.numberless = true)
      (accepted : field.read content.draft record = .ok changed)
      (others : Writes fields changed members final) :
      Writes (field :: fields) record ((field.name, content) :: members) final

namespace Writes

variable {fields : List (RecordField ρ)} {record final : ρ} {members : List (String × Json)}
  {read : Draft → Except Fault α} {write : α → Json} {set : α → ρ → ρ}

theorem mandatory
    (name : String) (faithful : Faithful read write) (value : α)
    (others : Writes fields (set value record) members final) :
    Writes (.mandatory name read set :: fields) record ((name, write value) :: members)
      final := by
  refine cons (faithful.numberless value) ?_ others
  simp only [RecordField.mandatory, faithful.readsBack]
  rfl

theorem default
    (name : String) (faithful : Faithful read write) (value : α)
    (others : Writes fields (set value record) members final) :
    Writes (.default name read set :: fields) record ((name, write value) :: members)
      final := by
  refine cons (faithful.numberless value) ?_ others
  simp only [RecordField.default, faithful.readsBack]
  rfl

theorem numberless (writes : Writes fields record members final) :
    Json.numberlessMembers members = true := by
  induction writes with
  | nil => rfl
  | cons numberless _ _ inductionHypothesis =>
      rw [Json.numberlessMembers, numberless, inductionHypothesis, Bool.and_self]

theorem keys_eq (writes : Writes fields record members final) :
    (Json.draftMembers members).map Prod.fst =
      (fields.map RecordField.name).map some := by
  induction writes with
  | nil => rfl
  | cons _ _ _ inductionHypothesis =>
      rw [Json.draftMembers, List.map_cons, List.map_cons, List.map_cons, inductionHypothesis]

/-- The keys that were given before are those of the fields in front. -/
theorem readMembers_behind
    {format : RecordFormat ρ} (distinct : (format.fields.map RecordField.name).Nodup)
    (writes : Writes fields record members final) {before : List (RecordField ρ)}
    (split : format.fields = before ++ fields) :
    format.readMembers (before.map RecordField.name).reverse record (Json.draftMembers members) =
      .ok final := by
  -- With each member one field moves to the front, so a field that is read now was not
  -- given before, and at the end every field was given.
  induction writes generalizing before with
  | nil record =>
      have complete : ∀ field ∈ before, field.name ∈ (before.map RecordField.name).reverse := by
        intro field member
        exact List.mem_reverse.2 (List.mem_map_of_mem member)
      rw [List.append_nil] at split
      rw [Json.draftMembers, readMembers, split, if_neg]
      simp only [List.any_eq_true, Bool.and_eq_true, Bool.not_eq_true', not_exists]
      intro field missing
      simp [complete field missing.1] at missing
  | @cons field fields record changed final content members _ accepted _ inductionHypothesis =>
      have member : field ∈ format.fields := by
        rw [split]
        exact List.mem_append_right before List.mem_cons_self
      have found : (format.fields.find? fun other => other.name = field.name) = some field :=
        (Catalog.find?_eq_some_iff_of_distinct distinct).2 ⟨member, rfl⟩
      have fresh : field.name ∉ (before.map RecordField.name).reverse := by
        rw [split, List.map_append, List.map_cons, List.nodup_middle, List.nodup_cons] at distinct
        intro givenBefore
        exact distinct.1 (List.mem_append_left _ (List.mem_reverse.1 givenBefore))
      have behind : format.readMembers (field.name :: (before.map RecordField.name).reverse)
          changed (Json.draftMembers members) = .ok final := by
        have moved : format.fields = (before ++ [field]) ++ fields := by
          rw [split, List.append_assoc, List.singleton_append]
        have others := inductionHypothesis moved
        rw [List.map_append, List.reverse_append] at others
        exact others
      simp only [Json.draftMembers, readMembers, found, List.contains_eq_mem, fresh, decide_false,
        Bool.false_eq_true, if_false, accepted]
      exact behind

theorem readMembers_eq_ok
    {format : RecordFormat ρ} (distinct : (format.fields.map RecordField.name).Nodup)
    (writes : Writes format.fields format.initial members final) :
    format.readMembers [] format.initial (Json.draftMembers members) = .ok final := by
  have first : format.fields = [] ++ format.fields := (List.nil_append _).symm
  exact writes.readMembers_behind distinct first

end Writes

/-- A record is faithful if its fields have distinct keys and are all written, in
their order. -/
theorem faithful
    {format : RecordFormat ρ} (distinct : (format.fields.map RecordField.name).Nodup)
    {members : ρ → List (String × Json)}
    (writes : ∀ record, Writes format.fields format.initial (members record) record) :
    Faithful format.read fun record => .object (members record) where
  readsBack record := (writes record).readMembers_eq_ok distinct
  numberless record := (writes record).numberless

/-- Members without a required field are refused, whatever else they give. -/
theorem readMembers_ne_ok_of_missing
    {format : RecordFormat ρ} {field : RecordField ρ} (member : field ∈ format.fields)
    (required : field.required = true) {members : List (Option String × Draft)}
    (missing : some field.name ∉ members.map Prod.fst) {seen : List String}
    (unseen : field.name ∉ seen) (record final : ρ) :
    format.readMembers seen record members ≠ .ok final := by
  -- The field stays unseen to the end, as no member has its key.
  induction members generalizing seen record with
  | nil =>
      have incomplete : (format.fields.any fun other =>
          other.required && !seen.contains other.name) = true := by
        apply List.any_eq_true.2
        exact ⟨field, member, by simp [required, unseen]⟩
      rw [readMembers, if_pos incomplete]
      exact nofun
  | cons first members inductionHypothesis =>
      rw [List.map_cons, List.mem_cons, not_or] at missing
      obtain ⟨different, missing⟩ := missing
      obtain ⟨givenKey, content⟩ := first
      cases givenKey with
      | none => exact nofun
      | some key =>
          have unseenStill : field.name ∉ key :: seen := by
            rw [List.mem_cons, not_or]
            exact ⟨fun same => different (congrArg some same), unseen⟩
          rw [readMembers]
          cases format.fields.find? fun other => other.name = key with
          | none =>
              by_cases complete : content.complete = true
              · simp only [complete, if_true]
                exact inductionHypothesis missing unseen record
              · simp only [complete]
                exact nofun
          | some known =>
              by_cases again : seen.contains key = true
              · simp only [again, if_true]
                exact nofun
              · simp only [again]
                cases known.read content record with
                | error fault => exact nofun
                | ok changed => exact inductionHypothesis missing unseenStill changed

end RecordFormat

end TypedSql
