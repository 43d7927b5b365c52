import TypedSql.Json.Draft
import TypedSql.NameMap

/-!
# Decoding drafts

Decoding walks a draft in the order of its text and stops at the first fault, so
what lies behind a fault is never looked at. Nothing is coerced: each reader
accepts one kind of value.

A record is written as an object of its fields, or as an array of its fields in
a fixed order. Unknown keys of an object are skipped, whatever their values; a
field that is given twice is a fault.
-/

namespace TypedSql

/-- Why a JSON text is not accepted. -/
inductive Fault where
  /-- The text breaks the grammar, ends early or goes on too long. -/
  | malformed
  /-- The text follows the grammar so far, but its value does not fit. -/
  | mismatch
  deriving DecidableEq

namespace Draft

variable {α : Type} {ρ : Type}

/-- The fault of a value of the wrong kind. An array or object is refused
unread; any other value is read to its end first. -/
def refusal : Draft → Fault
  | number false => .malformed
  | text none => .malformed
  | broken => .malformed
  | _ => .mismatch

def readText : Draft → Except Fault String
  | text (some value) => .ok value
  | other => .error other.refusal

def readFlag : Draft → Except Fault Bool
  | bool value => .ok value
  | other => .error other.refusal

def readOption (read : Draft → Except Fault α) : Draft → Except Fault (Option α)
  | null => .ok none
  | other => (read other).map some

def readList (read : Draft → Except Fault α) : Draft → Except Fault (List α)
  | array items => items.mapM read
  | other => .error other.refusal

/-- Adds the members of an object to a map; the last value of a key stays. -/
def readPairs (read : Draft → Except Fault α) (map : NameMap α) :
    List (Option String × Draft) → Except Fault (NameMap α)
  | [] => .ok map
  | (none, _) :: _ => .error .malformed
  | (some key, value) :: members => do
      let content ← read value
      readPairs read (map.set key content) members

def readMap (read : Draft → Except Fault α) : Draft → Except Fault (NameMap α)
  | object members => readPairs read .empty members
  | other => .error other.refusal

end Draft

/-- A field of a record: its key, whether it must be given, and how its value
changes the record. -/
structure RecordField (ρ : Type) where
  name : String
  required : Bool
  read : Draft → ρ → Except Fault ρ

namespace RecordField

variable {α : Type} {ρ : Type}

def mandatory (name : String) (read : Draft → Except Fault α)
    (set : α → ρ → ρ) : RecordField ρ :=
  ⟨name, true, fun draft record => (read draft).map fun value => set value record⟩

/-- A field that keeps the value of the initial record when it is not given. -/
def default (name : String) (read : Draft → Except Fault α)
    (set : α → ρ → ρ) : RecordField ρ :=
  ⟨name, false, fun draft record => (read draft).map fun value => set value record⟩

end RecordField

/-- How a record is written: its fields in order, and the record before any
field is read. -/
structure RecordFormat (ρ : Type) where
  initial : ρ
  fields : List (RecordField ρ)

namespace RecordFormat

variable {ρ : Type}

/-- Reads the members of an object. The keys in `seen` were given before. -/
def readMembers (format : RecordFormat ρ) (seen : List String) (record : ρ) :
    List (Option String × Draft) → Except Fault ρ
  | [] =>
      if format.fields.any fun field => field.required && !seen.contains field.name then
        .error .mismatch
      else
        .ok record
  | (none, _) :: _ => .error .malformed
  | (some key, value) :: members =>
      match format.fields.find? fun field => field.name = key with
      | none =>
          if value.complete then
            readMembers format seen record members
          else
            .error .malformed
      | some field =>
          if seen.contains key then
            .error .mismatch
          else do
            let changed ← field.read value record
            readMembers format (key :: seen) changed members

/-- Reads the items of an array as the values of the fields in order. -/
def readItems : List (RecordField ρ) → ρ → List Draft → Except Fault ρ
  | fields, record, [] =>
      if fields.any RecordField.required then .error .mismatch else .ok record
  | [], _, _ :: _ => .error .malformed
  | field :: fields, record, item :: items => do
      let changed ← field.read item record
      readItems fields changed items

/-- Reads a record from an object or an array. -/
def read (format : RecordFormat ρ) : Draft → Except Fault ρ
  | .object members => format.readMembers [] format.initial members
  | .array items => readItems format.fields format.initial items
  | other => .error other.refusal

end RecordFormat

end TypedSql
