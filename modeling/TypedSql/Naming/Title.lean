import TypedSql.Text.Blank
import TypedSql.Text.CaseMapping

/-!
# Titles

A title has an uppercase letter at the start of each word. Letters, digits,
underscores and most characters beyond the Latin ones belong to words.
-/

namespace TypedSql.Naming

/-- Whether the character after this one starts a word: after punctuation and
blanks, but not after an underscore. -/
def breaksWord (c : Char) : Bool :=
  if c.toNat < 128 then !(c.isAlphanum || c = '_') else Text.isBlank c

/-- Uppercases the first character of each word of a text that stands after
`previous`. -/
def titleAfter (previous : Char) : List Char → List Char
  | [] => []
  | c :: rest => (if breaksWord previous then Text.upper c else [c]) ++ titleAfter c rest

/-- Uppercases the first character of each word of a sequence of characters. -/
def titleChars (cs : List Char) : List Char :=
  titleAfter ' ' cs

theorem underscore_notMem_titleAfter
    (previous : Char) {cs : List Char} (plain : '_' ∉ cs) :
    '_' ∉ titleAfter previous cs := by
  induction cs generalizing previous with
  | nil => exact plain
  | cons c rest inductionHypothesis =>
      rw [List.mem_cons, not_or] at plain
      rcases plain with ⟨different, plainRest⟩
      have later := inductionHypothesis c plainRest
      rw [titleAfter, List.mem_append, not_or]
      refine ⟨?_, later⟩
      by_cases breaks : breaksWord previous = true
      · rw [if_pos breaks]
        exact Text.underscore_notMem_upper (Ne.symm different)
      · rw [if_neg breaks, List.mem_singleton]
        exact different

def titleCase (s : String) : String :=
  String.ofList (titleChars s.toList)

def uncapitalize (s : String) : String :=
  match s.toList with
  | [] => ""
  | c :: rest => String.ofList (Text.lower c ++ rest)

end TypedSql.Naming
