/-!
# Numerals

Numbers in JSON texts have a sign, a whole part, a fraction and an exponent.
Only the extent of a number and its finiteness as a binary approximation are of
interest.
-/

namespace TypedSql.Numeral

/-- The greatest significand that is kept exactly. -/
def maxSignificand : Nat :=
  UInt64.size - 1

def digitValue (c : Char) : Nat :=
  c.toNat - '0'.toNat

def digitsValue (digits : List Char) : Nat :=
  digits.foldl (fun value digit => value * 10 + digitValue digit) 0

/-- Adds digits to a significand as long as it stays exact, and counts the
digits left over. -/
def extendSignificand (significand : Nat) : List Char → Nat × Nat
  | [] => (significand, 0)
  | digit :: digits =>
      if significand * 10 + digitValue digit ≤ maxSignificand then
        extendSignificand (significand * 10 + digitValue digit) digits
      else
        (significand, digits.length + 1)

/-- Whether the binary approximation of a number is finite. Whole digits that do
not fit into the significand count as powers of ten, and fraction digits that do
not fit are dropped. -/
def isFinite (whole fraction : List Char) (exponent : Int) : Bool :=
  let (significand, left) := extendSignificand 0 whole
  let (significand, dropped) := extendSignificand significand fraction
  let power := exponent + Int.ofNat left - Int.ofNat (fraction.length - dropped)
  significand = 0 || power ≤ 0 ||
    (power ≤ 308 &&
      (significand.toFloat * Float.ofScientific 1 false power.toNat).isFinite)

def scanDigits (source : List Char) : Option (List Char × List Char) :=
  if (source.takeWhile Char.isDigit).isEmpty then
    none
  else
    some (source.takeWhile Char.isDigit, source.dropWhile Char.isDigit)

/-- Reads the whole part of a number, which starts with zero only if it is
zero. -/
def scanWhole (source : List Char) : Option (List Char × List Char) :=
  match source with
  | '0' :: digit :: rest => if digit.isDigit then none else some (['0'], digit :: rest)
  | _ => scanDigits source

/-- Reads the fraction of a number; without a point it has no digits. -/
def scanFraction (source : List Char) : Option (List Char × List Char) :=
  match source with
  | '.' :: rest => scanDigits rest
  | _ => some ([], source)

/-- The sign of an exponent, and the text after it. -/
def scanSign (source : List Char) : Int × List Char :=
  match source with
  | '-' :: rest => (-1, rest)
  | '+' :: rest => (1, rest)
  | _ => (1, source)

def scanSignedDigits (source : List Char) : Option (Int × List Char) :=
  (scanDigits (scanSign source).2).map fun (digits, rest) =>
    ((scanSign source).1 * Int.ofNat (digitsValue digits), rest)

/-- Reads the exponent of a number; without one it is zero. -/
def scanExponent (source : List Char) : Option (Int × List Char) :=
  match source with
  | 'e' :: rest => scanSignedDigits rest
  | 'E' :: rest => scanSignedDigits rest
  | _ => some (0, source)

/-- Reads a number behind its sign. Tells whether it is finite, and what follows
it. -/
def read (source : List Char) : Option (Bool × List Char) := do
  let (whole, afterWhole) ← scanWhole source
  let (fraction, afterFraction) ← scanFraction afterWhole
  let (exponent, rest) ← scanExponent afterFraction
  return (isFinite whole fraction exponent, rest)

/-! ## Reading takes up text -/

theorem length_scanDigits {source digits rest : List Char}
    (found : scanDigits source = some (digits, rest)) : rest.length < source.length := by
  unfold scanDigits at found
  split at found
  · exact nomatch found
  · rename_i filled
    simp only [Option.some.injEq, Prod.mk.injEq] at found
    obtain ⟨_, rfl⟩ := found
    have whole := congrArg List.length
      (List.takeWhile_append_dropWhile (p := Char.isDigit) (l := source))
    have positive : 0 < (source.takeWhile Char.isDigit).length :=
      List.length_pos_iff.2 fun empty => filled (List.isEmpty_iff.2 empty)
    rw [List.length_append] at whole
    omega

theorem length_scanWhole {source digits rest : List Char}
    (found : scanWhole source = some (digits, rest)) : rest.length < source.length := by
  unfold scanWhole at found
  split at found
  · split at found
    · exact nomatch found
    · simp only [Option.some.injEq, Prod.mk.injEq] at found
      obtain ⟨_, rfl⟩ := found
      exact Nat.lt_succ_self _
  · exact length_scanDigits found

theorem length_scanFraction {source digits rest : List Char}
    (found : scanFraction source = some (digits, rest)) : rest.length ≤ source.length := by
  unfold scanFraction at found
  split at found
  · exact Nat.le_succ_of_le (Nat.le_of_lt (length_scanDigits found))
  · simp only [Option.some.injEq, Prod.mk.injEq] at found
    exact found.2 ▸ Nat.le_refl _

theorem length_scanSign (source : List Char) : (scanSign source).2.length ≤ source.length := by
  unfold scanSign
  split
  · exact Nat.le_succ _
  · exact Nat.le_succ _
  · exact Nat.le_refl _

theorem length_scanSignedDigits {source rest : List Char} {exponent : Int}
    (found : scanSignedDigits source = some (exponent, rest)) : rest.length < source.length := by
  simp only [scanSignedDigits, Option.map_eq_some_iff, Prod.exists, Prod.mk.injEq] at found
  obtain ⟨digits, after, scanned, _, rfl⟩ := found
  exact Nat.lt_of_lt_of_le (length_scanDigits scanned) (length_scanSign source)

theorem length_scanExponent {source rest : List Char} {exponent : Int}
    (found : scanExponent source = some (exponent, rest)) : rest.length ≤ source.length := by
  unfold scanExponent at found
  split at found
  · exact Nat.le_succ_of_le (Nat.le_of_lt (length_scanSignedDigits found))
  · exact Nat.le_succ_of_le (Nat.le_of_lt (length_scanSignedDigits found))
  · simp only [Option.some.injEq, Prod.mk.injEq] at found
    exact found.2 ▸ Nat.le_refl _

theorem length_read {source rest : List Char} {finite : Bool}
    (found : read source = some (finite, rest)) : rest.length < source.length := by
  simp only [read, Option.bind_eq_bind, Option.bind_eq_some_iff, Prod.exists, Option.pure_def,
    Option.some.injEq, Prod.mk.injEq] at found
  obtain ⟨_, afterWhole, whole, _, afterFraction, fraction, _, after, exponent, _, rfl⟩ := found
  exact Nat.lt_of_le_of_lt
    (Nat.le_trans (length_scanExponent exponent) (length_scanFraction fraction))
    (length_scanWhole whole)

end TypedSql.Numeral
