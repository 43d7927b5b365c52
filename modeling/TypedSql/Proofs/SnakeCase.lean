import Mathlib.Data.List.Basic
import TypedSql.Naming.Identifier

/-!
# Names in snake case

In a name in snake case each word starts with a small letter and goes on without
capitals. The capitals of its identifier show where the words start, so the words
can be read off the identifier. The only doubt is about `ID`, which stands for the
word `id` as well as for the words `i` and `d`.
-/

namespace TypedSql.Naming

/-! ## Codes of words -/

/-- Lists can be read off their codes if the code of the first entry can be told
from what follows. -/
theorem eq_of_flatMap_eq {α β : Type} {Valid : List α → Prop} {code : α → List β}
    (rest_valid : ∀ {first rest}, Valid (first :: rest) → Valid rest)
    (filled : ∀ {first rest}, Valid (first :: rest) → code first ≠ [])
    (cut : ∀ {first rest other otherRest}, Valid (first :: rest) → Valid (other :: otherRest) →
      code first ++ rest.flatMap code = code other ++ otherRest.flatMap code →
      first = other ∧ rest.flatMap code = otherRest.flatMap code)
    {entries others : List α} (valid : Valid entries) (otherValid : Valid others)
    (same : entries.flatMap code = others.flatMap code) : entries = others := by
  induction entries generalizing others with
  | nil =>
      cases others with
      | nil => rfl
      | cons other otherRest =>
          have nothing := List.flatMap_eq_nil_iff.1 same.symm other List.mem_cons_self
          exact absurd nothing (filled otherValid)
  | cons first rest inductionHypothesis =>
      cases others with
      | nil =>
          have nothing := List.flatMap_eq_nil_iff.1 same first List.mem_cons_self
          exact absurd nothing (filled valid)
      | cons other otherRest =>
          rcases cut valid otherValid same with ⟨sameFirst, later⟩
          rw [sameFirst, inductionHypothesis (rest_valid valid) (rest_valid otherValid) later]

/-! ## Small letters -/

theorem toNat_lt_of_isLower {c : Char} (small : c.isLower = true) : c.toNat < 128 := by
  have letters : (decide (c.val ≥ 'a'.val) && decide (c.val ≤ 'z'.val)) = true := small
  rw [Bool.and_eq_true, decide_eq_true_eq, decide_eq_true_eq, UInt32.le_iff_toNat_le] at letters
  have last : 'z'.val.toNat = 122 := rfl
  rw [Char.toNat]
  omega

theorem toNat_lt_of_isUpper {c : Char} (capital : c.isUpper = true) : c.toNat < 128 := by
  have bounds : 'A'.val ≤ c.val ∧ c.val ≤ 'Z'.val := of_decide_eq_true capital
  have before : c.val.toNat ≤ 'Z'.val.toNat := UInt32.le_iff_toNat_le.1 bounds.2
  have last : 'Z'.val.toNat = 90 := rfl
  rw [Char.toNat]
  omega

/-- What holds of the first 128 characters holds of each character among them. -/
theorem of_toNat_lt {P : Char → Prop} (codes : ∀ code < 128, P (Char.ofNat code))
    {c : Char} (latin : c.toNat < 128) : P c := by
  have atCode := codes c.toNat latin
  rw [Char.ofNat_toNat] at atCode
  exact atCode

/-- What holds of the small ones among the first 128 characters holds of all small
letters. -/
theorem of_isLower {P : Char → Prop}
    (codes : ∀ code < 128, (Char.ofNat code).isLower = true → P (Char.ofNat code))
    {c : Char} (small : c.isLower = true) : P c :=
  of_toNat_lt (P := fun c => c.isLower = true → P c) codes (toNat_lt_of_isLower small) small

theorem isUpper_toUpper {c : Char} (small : c.isLower = true) : c.toUpper.isUpper = true :=
  of_isLower (P := fun c => c.toUpper.isUpper = true) (by decide +kernel) small

theorem toLower_toUpper {c : Char} (small : c.isLower = true) : c.toUpper.toLower = c :=
  of_isLower (P := fun c => c.toUpper.toLower = c) (by decide +kernel) small

theorem breaksWord_of_isLower {c : Char} (small : c.isLower = true) : breaksWord c = false :=
  of_isLower (P := fun c => breaksWord c = false) (by decide +kernel) small

/-! ## Words with one capital -/

/-- Whether a word starts with a small Latin letter, and what follows are neither
capital ones nor characters behind which a title has further capitals. -/
def isSnakeWord : List Char → Bool
  | [] => false
  | first :: rest => first.isLower && rest.all fun c => !c.isUpper && !breaksWord c

/-- The word with its first letter as a capital. -/
def capitalized : List Char → List Char
  | [] => []
  | first :: rest => first.toUpper :: rest

theorem isSnakeWord_cons_iff {first : Char} {rest : List Char} :
    isSnakeWord (first :: rest) = true ↔
      first.isLower = true ∧ ∀ c ∈ rest, c.isUpper = false ∧ breaksWord c = false := by
  simp [isSnakeWord]

theorem titleAfter_of_not_breaksWord {previous : Char} {cs : List Char}
    (joined : breaksWord previous = false) (plain : ∀ c ∈ cs, breaksWord c = false) :
    titleAfter previous cs = cs := by
  induction cs generalizing previous with
  | nil => rfl
  | cons c rest inductionHypothesis =>
      have later := inductionHypothesis (plain c List.mem_cons_self)
        fun other member => plain other (List.mem_cons_of_mem c member)
      rw [titleAfter, if_neg (by rw [joined]; exact Bool.false_ne_true), later]
      rfl

theorem titleChars_of_isSnakeWord {word : List Char} (snake : isSnakeWord word = true) :
    titleChars word = capitalized word := by
  cases word with
  | nil => exact absurd snake Bool.false_ne_true
  | cons first rest =>
      rcases isSnakeWord_cons_iff.1 snake with ⟨small, plain⟩
      have upperForm : Text.upper first = [first.toUpper] := by
        rw [Text.upper, if_pos (toNat_lt_of_isLower small)]
      have unchanged : titleAfter first rest = rest :=
        titleAfter_of_not_breaksWord (breaksWord_of_isLower small)
          fun c member => (plain c member).2
      rw [titleChars, titleAfter, if_pos (by decide), upperForm, unchanged]
      rfl

/-- What stands in front of the first capital can be read off a text. -/
theorem append_inj_of_capitals {rest otherRest later otherLater : List Char}
    (plain : ∀ c ∈ rest, c.isUpper = false) (otherPlain : ∀ c ∈ otherRest, c.isUpper = false)
    (capital : ∀ c ∈ later.head?, c.isUpper = true)
    (otherCapital : ∀ c ∈ otherLater.head?, c.isUpper = true)
    (same : rest ++ later = otherRest ++ otherLater) :
    rest = otherRest ∧ later = otherLater := by
  -- What one list has more than the other would start with a capital.
  rcases List.append_eq_append_iff.1 same with ⟨more, longer, split⟩ | ⟨more, longer, split⟩
  · cases more with
    | nil => exact ⟨by rw [longer, List.append_nil], split⟩
    | cons c more =>
        have isCapital := capital c (by rw [split]; rfl)
        rw [otherPlain c (by rw [longer]; simp)] at isCapital
        exact absurd isCapital Bool.false_ne_true
  · cases more with
    | nil => exact ⟨by rw [longer, List.append_nil], split.symm⟩
    | cons c more =>
        have isCapital := otherCapital c (by rw [split]; rfl)
        rw [plain c (by rw [longer]; simp)] at isCapital
        exact absurd isCapital Bool.false_ne_true

/-- All of some words are in snake case. -/
def SnakeWords (pieces : List (List Char)) : Prop :=
  ∀ word ∈ pieces, isSnakeWord word = true

instance (pieces : List (List Char)) : Decidable (SnakeWords pieces) :=
  inferInstanceAs (Decidable (∀ word ∈ pieces, isSnakeWord word = true))

theorem SnakeWords.exists_cons {word : List Char} {rest : List (List Char)}
    (snake : SnakeWords (word :: rest)) :
    ∃ first letters, word = first :: letters ∧ first.isLower = true ∧
      ∀ c ∈ letters, c.isUpper = false := by
  have snakeWord := snake word List.mem_cons_self
  cases word with
  | nil => exact absurd snakeWord Bool.false_ne_true
  | cons first letters =>
      rcases isSnakeWord_cons_iff.1 snakeWord with ⟨small, plain⟩
      exact ⟨first, letters, rfl, small, fun c member => (plain c member).1⟩

theorem SnakeWords.rest {word : List Char} {rest : List (List Char)}
    (snake : SnakeWords (word :: rest)) : SnakeWords rest :=
  fun piece member => snake piece (List.mem_cons_of_mem word member)

theorem SnakeWords.isUpper_of_mem_head? {pieces : List (List Char)} (snake : SnakeWords pieces) :
    ∀ c ∈ (pieces.flatMap capitalized).head?, c.isUpper = true := by
  intro c member
  cases pieces with
  | nil => exact nomatch member
  | cons word rest =>
      rcases snake.exists_cons with ⟨first, letters, rfl, small, _⟩
      rw [← Option.some.inj member]
      exact isUpper_toUpper small

/-- The capitals of words that are run together show where each word starts. -/
theorem eq_of_flatMap_capitalized_eq {pieces others : List (List Char)}
    (snake : SnakeWords pieces) (otherSnake : SnakeWords others)
    (same : pieces.flatMap capitalized = others.flatMap capitalized) : pieces = others := by
  refine eq_of_flatMap_eq SnakeWords.rest ?_ ?_ snake otherSnake same
  · intro word rest snake
    rcases snake.exists_cons with ⟨first, letters, rfl, _⟩
    exact List.cons_ne_nil _ _
  · intro word rest other otherRest snake otherSnake same
    rcases snake.exists_cons with ⟨first, letters, rfl, small, plain⟩
    rcases otherSnake.exists_cons with ⟨otherFirst, otherLetters, rfl, otherSmall, otherPlain⟩
    rcases List.cons.inj same with ⟨capitals, behind⟩
    rcases append_inj_of_capitals plain otherPlain snake.rest.isUpper_of_mem_head?
      otherSnake.rest.isUpper_of_mem_head? behind with ⟨sameLetters, later⟩
    have sameFirst : first = otherFirst := by
      rw [← toLower_toUpper small, capitals, toLower_toUpper otherSmall]
    rw [sameFirst, sameLetters]
    exact ⟨rfl, later⟩

/-! ## The word `id` -/

/-- The words that have the capitals of a word: `i` and `d` in the case of `id`. -/
def spellWord (word : List Char) : List (List Char) :=
  if word = ['i', 'd'] then [['i'], ['d']] else [word]

/-- The words of a name, each word `id` as the words `i` and `d`. -/
def spelled (name : String) : List (List Char) :=
  (words name).flatMap spellWord

/-- In a list of words `d` never follows directly on `i`. -/
def NoSplitId (pieces : List (List Char)) : Prop :=
  ¬ [['i'], ['d']] <:+: pieces

instance (pieces : List (List Char)) : Decidable (NoSplitId pieces) :=
  inferInstanceAs (Decidable (¬ [['i'], ['d']] <:+: pieces))

theorem exists_cons_of_flatMap_spellWord_eq {pieces later : List (List Char)}
    (same : pieces.flatMap spellWord = ['d'] :: later) : ∃ rest, pieces = ['d'] :: rest := by
  cases pieces with
  | nil => exact nomatch same
  | cons word rest =>
      rw [List.flatMap_cons, spellWord] at same
      by_cases isId : word = ['i', 'd']
      · rw [if_pos isId] at same
        exact absurd (List.cons.inj same).1 (by decide)
      · rw [if_neg isId] at same
        exact ⟨rest, by rw [(List.cons.inj same).1]⟩

theorem not_noSplitId_of_flatMap_spellWord_eq
    {word : List Char} {pieces later : List (List Char)}
    (same : word :: pieces.flatMap spellWord = ['i'] :: ['d'] :: later) :
    ¬ NoSplitId (word :: pieces) := by
  intro joined
  rcases List.cons.inj same with ⟨first, behind⟩
  rcases exists_cons_of_flatMap_spellWord_eq behind with ⟨rest, split⟩
  exact joined ⟨[], rest, by rw [first, split]; rfl⟩

/-- Words are spelled alike only if `i` and `d` stand for `id` in one of the lists. -/
theorem eq_of_flatMap_spellWord_eq {pieces others : List (List Char)}
    (joined : NoSplitId pieces) (otherJoined : NoSplitId others)
    (same : pieces.flatMap spellWord = others.flatMap spellWord) : pieces = others := by
  refine eq_of_flatMap_eq ?_ ?_ ?_ joined otherJoined same
  · intro word rest joined split
    exact joined (split.trans (List.suffix_cons word rest).isInfix)
  · intro word rest _
    unfold spellWord
    by_cases isId : word = ['i', 'd']
    · rw [if_pos isId]
      exact List.cons_ne_nil _ _
    · rw [if_neg isId]
      exact List.cons_ne_nil _ _
  · -- If just one of the words is `id`, then the other list goes on with `i` and `d`.
    intro word rest other otherRest joined otherJoined same
    unfold spellWord at same
    by_cases isId : word = ['i', 'd']
    · by_cases otherIsId : other = ['i', 'd']
      · rw [if_pos isId, if_pos otherIsId] at same
        exact ⟨isId.trans otherIsId.symm, List.append_cancel_left same⟩
      · rw [if_pos isId, if_neg otherIsId] at same
        exact absurd otherJoined (not_noSplitId_of_flatMap_spellWord_eq same.symm)
    · by_cases otherIsId : other = ['i', 'd']
      · rw [if_neg isId, if_pos otherIsId] at same
        exact absurd joined (not_noSplitId_of_flatMap_spellWord_eq same)
      · rw [if_neg isId, if_neg otherIsId] at same
        exact List.cons.inj same

/-! ## Identifiers of words -/

theorem SnakeWords.flatMap_spellWord {pieces : List (List Char)} (snake : SnakeWords pieces) :
    SnakeWords (pieces.flatMap spellWord) := by
  intro word member
  rcases List.mem_flatMap.1 member with ⟨source, inPieces, inSpelling⟩
  unfold spellWord at inSpelling
  by_cases isId : source = ['i', 'd']
  · rw [if_pos isId] at inSpelling
    have letters : ∀ word ∈ [['i'], ['d']], isSnakeWord word = true := by decide
    exact letters word inSpelling
  · rw [if_neg isId, List.mem_singleton] at inSpelling
    rw [inSpelling]
    exact snake source inPieces

theorem SnakeWords.flatMap_exportWord {pieces : List (List Char)} (snake : SnakeWords pieces) :
    pieces.flatMap exportWord = (pieces.flatMap spellWord).flatMap capitalized := by
  rw [List.flatMap_assoc]
  apply List.flatMap_congr
  intro word member
  unfold exportWord spellWord
  by_cases isId : word = ['i', 'd']
  · rw [if_pos isId, if_pos isId]
    decide
  · rw [if_neg isId, if_neg isId, List.flatMap_singleton]
    exact titleChars_of_isSnakeWord (snake word member)

/-- Words in snake case have one identifier exactly if they are spelled alike. -/
theorem flatMap_exportWord_eq_iff_of_snakeWords {pieces others : List (List Char)}
    (snake : SnakeWords pieces) (otherSnake : SnakeWords others) :
    pieces.flatMap exportWord = others.flatMap exportWord ↔
      pieces.flatMap spellWord = others.flatMap spellWord := by
  rw [snake.flatMap_exportWord, otherSnake.flatMap_exportWord]
  constructor
  · intro same
    exact eq_of_flatMap_capitalized_eq snake.flatMap_spellWord otherSnake.flatMap_spellWord same
  · intro same
    rw [same]

/-! ## Names -/

/-- All words of a name are in snake case. -/
def SnakeCase (name : String) : Prop :=
  SnakeWords (words name)

instance (name : String) : Decidable (SnakeCase name) :=
  inferInstanceAs (Decidable (∀ word ∈ words name, isSnakeWord word = true))

theorem words_injective {name other : String} (same : words name = words other) :
    name = other := by
  have joined (text : String) : ['_'].intercalate (words text) = text.toList :=
    List.intercalate_splitOn '_'
  rw [← String.toList_inj, ← joined name, same, joined other]

/-- Names in snake case have one identifier exactly if they differ at most in
`i_d` for `id`. -/
theorem exported_eq_iff_of_snakeCase {name other : String}
    (snake : SnakeCase name) (otherSnake : SnakeCase other) :
    exported name = exported other ↔ spelled name = spelled other := by
  rw [← String.toList_inj, exported, exported, String.toList_ofList, String.toList_ofList]
  exact flatMap_exportWord_eq_iff_of_snakeWords snake otherSnake

theorem spelled_eq_iff {name other : String}
    (joined : NoSplitId (words name)) (otherJoined : NoSplitId (words other)) :
    spelled name = spelled other ↔ name = other := by
  constructor
  · intro same
    exact words_injective (eq_of_flatMap_spellWord_eq joined otherJoined same)
  · intro same
    rw [same]

end TypedSql.Naming
