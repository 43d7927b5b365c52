/-!
# Quoted texts

Texts in JSON stand in quotes. A backslash starts an escape, and an escape with
four hexadecimal digits writes one UTF-16 unit.
-/

namespace TypedSql.QuotedText

/-- A part of a quoted text: a character, or a UTF-16 unit written in
hexadecimal. -/
inductive TextPart where
  | char (c : Char)
  | unit (code : Nat)
  deriving DecidableEq

def hexValue? (c : Char) : Option Nat :=
  if '0' ≤ c ∧ c ≤ '9' then some (c.toNat - '0'.toNat)
  else if 'a' ≤ c ∧ c ≤ 'f' then some (c.toNat - 'a'.toNat + 10)
  else if 'A' ≤ c ∧ c ≤ 'F' then some (c.toNat - 'A'.toNat + 10)
  else none

def hexUnit? (a b c d : Char) : Option Nat := do
  let a ← hexValue? a
  let b ← hexValue? b
  let c ← hexValue? c
  let d ← hexValue? d
  return ((a * 16 + b) * 16 + c) * 16 + d

/-- The character that a letter after a backslash writes. -/
def escaped? : Char → Option Char
  | '"' => some '"'
  | '\\' => some '\\'
  | '/' => some '/'
  | 'b' => some '\x08'
  | 'f' => some '\x0c'
  | 'n' => some '\n'
  | 'r' => some '\r'
  | 't' => some '\t'
  | _ => none

/-- Reads the parts of a quoted text up to its closing quote, and the text after
it. -/
def scan : List Char → Option (List TextPart × List Char)
  | [] => none
  | '"' :: rest => some ([], rest)
  | '\\' :: 'u' :: a :: b :: c :: d :: rest => do
      let code ← hexUnit? a b c d
      let (parts, after) ← scan rest
      return (.unit code :: parts, after)
  | '\\' :: letter :: rest => do
      let c ← escaped? letter
      let (parts, after) ← scan rest
      return (.char c :: parts, after)
  | c :: rest =>
      if c.toNat < 32 ∨ c = '\\' then
        none
      else do
        let (parts, after) ← scan rest
        return (.char c :: parts, after)

/-- The text that the parts write. A unit from `D800` to `DBFF` makes a
character with a unit from `DC00` to `DFFF` right after it; apart from such
pairs these units have no meaning. -/
def join : List TextPart → Option (List Char)
  | [] => some []
  | .char c :: parts => (join parts).map (c :: ·)
  | .unit high :: .unit low :: parts =>
      if 0xD800 ≤ high ∧ high < 0xDC00 then
        if 0xDC00 ≤ low ∧ low < 0xE000 then
          (join parts).map
            (Char.ofNat (0x10000 + (high - 0xD800) * 0x400 + (low - 0xDC00)) :: ·)
        else
          none
      else if 0xDC00 ≤ high ∧ high < 0xE000 then
        none
      else
        (join (.unit low :: parts)).map (Char.ofNat high :: ·)
  | .unit code :: parts =>
      if 0xD800 ≤ code ∧ code < 0xE000 then
        none
      else
        (join parts).map (Char.ofNat code :: ·)

theorem length_scan {source : List Char} {parts : List TextPart} {rest : List Char}
    (read : scan source = some (parts, rest)) : rest.length < source.length := by
  fun_induction scan source generalizing parts rest with
  | case1 => simp at read
  | case2 => simp_all
  | case3 a b c d after ih =>
      simp only [Option.bind_eq_bind, Option.bind_eq_some_iff, Prod.exists, Option.pure_def,
        Option.some.injEq, Prod.mk.injEq] at read
      obtain ⟨_, _, _, _, inner, _, rfl⟩ := read
      have := ih inner
      simp only [List.length_cons]
      omega
  | case4 letter after _ ih =>
      simp only [Option.bind_eq_bind, Option.bind_eq_some_iff, Prod.exists, Option.pure_def,
        Option.some.injEq, Prod.mk.injEq] at read
      obtain ⟨_, _, _, _, inner, _, rfl⟩ := read
      have := ih inner
      simp only [List.length_cons]
      omega
  | case5 => simp at read
  | case6 c after _ _ _ _ ih =>
      simp only [Option.bind_eq_bind, Option.bind_eq_some_iff, Prod.exists, Option.pure_def,
        Option.some.injEq, Prod.mk.injEq] at read
      obtain ⟨_, _, inner, _, rfl⟩ := read
      have := ih inner
      simp only [List.length_cons]
      omega

/-- Reads a text behind its opening quote, and what follows the closing quote.
The text is absent if its units do not form characters. -/
def read (source : List Char) : Option (Option String × List Char) :=
  (scan source).map fun (parts, rest) => ((join parts).map String.ofList, rest)

theorem length_read {source : List Char} {value : Option String} {rest : List Char}
    (found : read source = some (value, rest)) : rest.length < source.length := by
  simp only [read, Option.map_eq_some_iff, Prod.exists, Prod.mk.injEq] at found
  obtain ⟨parts, after, scanned, _, rfl⟩ := found
  exact length_scan scanned

end TypedSql.QuotedText
