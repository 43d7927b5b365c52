import TypedSql.Json.Basic

/-!
# Drafts of JSON values

A draft is what a JSON text has shown of a value so far. Where a text stops
following the grammar, the draft holds a break, and nothing after the break is
known. Two defects leave the grammar intact and are kept apart from a break: a
text whose escapes form no characters, and a number without a finite
approximation.
-/

namespace TypedSql

/-- A JSON value as far as it could be read. A cut array ends with a break; a
cut object ends with a member whose value is a break, under the key that was
read, if any. -/
inductive Draft where
  | null
  | bool (value : Bool)
  | number (finite : Bool)
  | text (value : Option String)
  | array (items : List Draft)
  | object (members : List (Option String × Draft))
  | broken
  deriving Inhabited

namespace Draft

mutual

/-- Whether the value was read to its end. -/
def complete : Draft → Bool
  | array items => completeItems items
  | object members => completeMembers members
  | broken => false
  | _ => true

def completeItems : List Draft → Bool
  | [] => true
  | item :: items => complete item && completeItems items

def completeMembers : List (Option String × Draft) → Bool
  | [] => true
  | (_, value) :: members => complete value && completeMembers members

end

mutual

/-- Whether the value was read to its end, and every key, text and number in it
has a meaning. -/
def sound : Draft → Bool
  | number finite => finite
  | text value => value.isSome
  | array items => soundItems items
  | object members => soundMembers members
  | broken => false
  | _ => true

def soundItems : List Draft → Bool
  | [] => true
  | item :: items => sound item && soundItems items

def soundMembers : List (Option String × Draft) → Bool
  | [] => true
  | (key, value) :: members => key.isSome && sound value && soundMembers members

end

mutual

/-- The number of arrays and objects that lie inside one another. -/
def depth : Draft → Nat
  | array items => depthItems items + 1
  | object members => depthMembers members + 1
  | _ => 0

def depthItems : List Draft → Nat
  | [] => 0
  | item :: items => max (depth item) (depthItems items)

def depthMembers : List (Option String × Draft) → Nat
  | [] => 0
  | (_, value) :: members => max (depth value) (depthMembers members)

end

end Draft

namespace Json

mutual

/-- The draft of a whole value. -/
def draft : Json → Draft
  | null => .null
  | bool value => .bool value
  | number _ => .number true
  | text value => .text (some value)
  | array items => .array (draftItems items)
  | object members => .object (draftMembers members)

def draftItems : List Json → List Draft
  | [] => []
  | item :: items => draft item :: draftItems items

def draftMembers : List (String × Json) → List (Option String × Draft)
  | [] => []
  | (key, value) :: members => (some key, draft value) :: draftMembers members

end

end Json

end TypedSql
