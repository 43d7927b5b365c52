/-!
# JSON values

The values that are written as JSON texts, and their compact printed form. The
numbers among them are integers.
-/

namespace TypedSql

inductive Json where
  | null
  | bool (value : Bool)
  | number (value : Int)
  | text (value : String)
  | array (items : List Json)
  | object (members : List (String × Json))
  deriving Inhabited

namespace Json

def ofList {α : Type} (item : α → Json) (items : List α) : Json :=
  array (items.map item)

/-- The image of a value, or `null`. -/
def ofOption {α : Type} (present : α → Json) : Option α → Json
  | none => null
  | some value => present value

def count (n : Nat) : Json :=
  number (Int.ofNat n)

/-- A character within a quoted text: quotes, backslashes and control characters
are escaped. -/
def renderChar (c : Char) : List Char :=
  if c = '"' then ['\\', '"']
  else if c = '\\' then ['\\', '\\']
  else if c = '\n' then ['\\', 'n']
  else if c = '\r' then ['\\', 'r']
  else if c = '\t' then ['\\', 't']
  else if c = '\x08' then ['\\', 'b']
  else if c = '\x0c' then ['\\', 'f']
  else if c.toNat < 32 then
    ['\\', 'u', '0', '0', Nat.digitChar (c.toNat / 16), Nat.digitChar (c.toNat % 16)]
  else [c]

def renderText (s : String) : List Char :=
  '"' :: s.toList.flatMap renderChar ++ ['"']

/-- The decimal digits of an integer after its sign. -/
def renderNumber : Int → List Char
  | .ofNat n => Nat.toDigits 10 n
  | .negSucc n => '-' :: Nat.toDigits 10 (n + 1)

mutual

/-- The compact printed form of a value. -/
def renderChars : Json → List Char
  | null => ['n', 'u', 'l', 'l']
  | bool true => ['t', 'r', 'u', 'e']
  | bool false => ['f', 'a', 'l', 's', 'e']
  | number value => renderNumber value
  | text value => renderText value
  | array [] => ['[', ']']
  | array (item :: items) => '[' :: renderChars item ++ renderItems items
  | object [] => ['{', '}']
  | object ((key, value) :: members) =>
      '{' :: renderText key ++ ':' :: renderChars value ++ renderMembers members

/-- The further items of an array and its end. -/
def renderItems : List Json → List Char
  | [] => [']']
  | item :: items => ',' :: renderChars item ++ renderItems items

/-- The further members of an object and its end. -/
def renderMembers : List (String × Json) → List Char
  | [] => ['}']
  | (key, value) :: members =>
      ',' :: renderText key ++ ':' :: renderChars value ++ renderMembers members

end

def render (value : Json) : String :=
  String.ofList (renderChars value)

end Json

end TypedSql
