import TypedSql.Json.Numeral
import TypedSql.Json.QuotedText

/-!
# JSON tokens

A JSON text is cut into tokens. Where no token can be read, a break stands for
the rest of the text.
-/

namespace TypedSql

inductive JsonToken where
  | openArray
  | closeArray
  | openObject
  | closeObject
  | comma
  | colon
  | null
  | bool (value : Bool)
  | number (finite : Bool)
  | text (value : Option String)
  | broken
  deriving DecidableEq

namespace JsonToken

/-- Whether a character may stand between tokens. -/
def isGap (c : Char) : Bool :=
  c = ' ' || c = '\n' || c = '\r' || c = '\t'

/-- Reads the token that starts with a character, and what follows the token. -/
def read (first : Char) (source : List Char) : Option (JsonToken × List Char) :=
  match first, source with
  | '[', _ => some (openArray, source)
  | ']', _ => some (closeArray, source)
  | '{', _ => some (openObject, source)
  | '}', _ => some (closeObject, source)
  | ',', _ => some (comma, source)
  | ':', _ => some (colon, source)
  | 'n', 'u' :: 'l' :: 'l' :: rest => some (null, rest)
  | 't', 'r' :: 'u' :: 'e' :: rest => some (bool true, rest)
  | 'f', 'a' :: 'l' :: 's' :: 'e' :: rest => some (bool false, rest)
  | '"', _ => (QuotedText.read source).map fun (value, rest) => (text value, rest)
  | '-', _ => (Numeral.read source).map fun (finite, rest) => (number finite, rest)
  | _, _ => (Numeral.read (first :: source)).map fun (finite, rest) => (number finite, rest)

theorem length_read {first : Char} {source rest : List Char} {token : JsonToken}
    (found : read first source = some (token, rest)) : rest.length ≤ source.length := by
  have numeral {digits : List Char}
      (scanned : (Numeral.read digits).map (fun (finite, rest) => (number finite, rest)) =
        some (token, rest)) : rest.length < digits.length := by
    simp only [Option.map_eq_some_iff, Prod.exists, Prod.mk.injEq] at scanned
    obtain ⟨finite, after, numeralRead, _, rfl⟩ := scanned
    exact Numeral.length_read numeralRead
  unfold read at found
  split at found
  case h_10 =>
    simp only [Option.map_eq_some_iff, Prod.exists, Prod.mk.injEq] at found
    obtain ⟨value, after, textRead, _, rfl⟩ := found
    exact Nat.le_of_lt (QuotedText.length_read textRead)
  case h_11 => exact Nat.le_of_lt (numeral found)
  case h_12 => exact Nat.le_of_lt_succ (numeral found)
  case h_7 | h_8 | h_9 =>
    simp only [Option.some.injEq, Prod.mk.injEq] at found
    simp only [List.length_cons, ← found.2]
    omega
  all_goals
    simp only [Option.some.injEq, Prod.mk.injEq] at found
    exact found.2 ▸ Nat.le_refl _

def tokens (source : List Char) : List JsonToken :=
  match source with
  | [] => []
  | c :: rest =>
      if isGap c then
        tokens rest
      else
        match _found : read c rest with
        | none => [broken]
        | some (token, after) => token :: tokens after
  termination_by source.length
  decreasing_by
    · exact Nat.lt_succ_self _
    · exact Nat.lt_succ_of_le (length_read ‹_›)

end JsonToken

end TypedSql
