import TypedSql.Proofs.SnakeCase

/-!
# Endings of words

A plural ending is found without regard to the case of letters. It consists of
Latin letters, so it covers as many bytes of a word as it has itself, and what is
put in its place starts with a letter of the same case.
-/

namespace TypedSql.Naming

/-! ## Latin letters in either case -/

theorem toLower_eq_self_iff {c : Char} : c.toLower = c ↔ c.isUpper = false := by
  unfold Char.toLower Char.isUpper
  grind

theorem toNat_lt_of_isLower_toLower {c : Char} (letter : c.toLower.isLower = true) :
    c.toNat < 128 := by
  by_cases capital : c.isUpper = true
  · exact toNat_lt_of_isUpper capital
  · rw [toLower_eq_self_iff.2 (eq_false_of_ne_true capital)] at letter
    exact toNat_lt_of_isLower letter

theorem toUpper_toLower {c : Char} (letter : c.toLower.isLower = true)
    (capital : c.isUpper = true) : c.toLower.toUpper = c :=
  of_toNat_lt (P := fun c => c.isUpper = true → c.toLower.toUpper = c) (by decide +kernel)
    (toNat_lt_of_isLower_toLower letter) capital

theorem isUppercase_of_letter {c : Char} (letter : c.toLower.isLower = true) :
    Text.isUppercase c = c.isUpper := by
  rw [Text.isUppercase, if_pos (toNat_lt_of_isLower_toLower letter)]

theorem isUpper_of_isLower {c : Char} (small : c.isLower = true) : c.isUpper = false :=
  of_isLower (P := fun c => c.isUpper = false) (by decide +kernel) small

theorem map_toLower_eq_self_iff {cs : List Char} :
    cs.map Char.toLower = cs ↔ ∀ c ∈ cs, c.isUpper = false := by
  have unchanged : cs.map Char.toLower = cs.map id ↔ ∀ c ∈ cs, c.toLower = c :=
    List.map_inj_left
  rw [List.map_id] at unchanged
  rw [unchanged]
  simp only [toLower_eq_self_iff]

theorem map_toLower_of_isSnakeWord {word : List Char} (snake : isSnakeWord word = true) :
    word.map Char.toLower = word := by
  rw [map_toLower_eq_self_iff]
  cases word with
  | nil => exact absurd snake Bool.false_ne_true
  | cons first rest =>
      rcases isSnakeWord_cons_iff.1 snake with ⟨small, plain⟩
      intro c member
      rcases List.mem_cons.1 member with rfl | later
      · exact isUpper_of_isLower small
      · exact (plain c later).1

theorem map_toLower_capitalized {word : List Char} (snake : isSnakeWord word = true) :
    (capitalized word).map Char.toLower = word := by
  cases word with
  | nil => rfl
  | cons first rest =>
      have small := (isSnakeWord_cons_iff.1 snake).1
      have lowered := map_toLower_of_isSnakeWord snake
      rw [List.map_cons] at lowered
      rw [capitalized, List.map_cons, toLower_toUpper small, (List.cons.inj lowered).2]

theorem head?_of_isSnakeWord {word : List Char} (snake : isSnakeWord word = true) :
    word.head?.any Text.isUppercase = false := by
  cases word with
  | nil => rfl
  | cons first rest =>
      have small := (isSnakeWord_cons_iff.1 snake).1
      have capital := isUpper_of_isLower small
      have same := toLower_eq_self_iff.2 capital
      rw [List.head?_cons, Option.any_some,
        isUppercase_of_letter (by rw [same]; exact small), capital]

theorem head?_capitalized {word : List Char} (snake : isSnakeWord word = true) :
    (capitalized word).head?.any Text.isUppercase = true := by
  cases word with
  | nil => exact absurd snake Bool.false_ne_true
  | cons first rest =>
      have small := (isSnakeWord_cons_iff.1 snake).1
      have back := toLower_toUpper small
      rw [capitalized, List.head?_cons, Option.any_some,
        isUppercase_of_letter (by rw [back]; exact small), isUpper_toUpper small]

/-! ## The tables -/

/-- All endings for which there is a singular. -/
def endings : List Ending :=
  irregularEndings ++ regularEndings

section

variable {ending : Ending}

theorem isLower_of_mem_plural (listed : ending ∈ endings) :
    ∀ c ∈ ending.plural.toList, c.isLower = true := by
  have small : ∀ ending ∈ endings, ending.plural.toList.all Char.isLower = true := by
    decide +kernel
  exact List.all_eq_true.1 (small ending listed)

theorem plural_ne_nil (listed : ending ∈ endings) : ending.plural.toList ≠ [] := by
  have filled : ∀ ending ∈ endings, ending.plural.toList ≠ [] := by decide +kernel
  exact filled ending listed

theorem singular_eq_nil_or_isSnakeWord (listed : ending ∈ endings) :
    ending.singular.toList = [] ∨ isSnakeWord ending.singular.toList = true := by
  have snake : ∀ ending ∈ endings,
      ending.singular.toList = [] ∨ isSnakeWord ending.singular.toList = true := by
    decide +kernel
  exact snake ending listed

theorem titleChars_singular (listed : ending ∈ endings) :
    titleChars ending.singular.toList = capitalized ending.singular.toList := by
  rcases singular_eq_nil_or_isSnakeWord listed with empty | snake
  · rw [empty]
    rfl
  · exact titleChars_of_isSnakeWord snake

theorem map_toLower_capitalized_singular (listed : ending ∈ endings) :
    (capitalized ending.singular.toList).map Char.toLower = ending.singular.toList := by
  rcases singular_eq_nil_or_isSnakeWord listed with empty | snake
  · rw [empty]
    rfl
  · exact map_toLower_capitalized snake

theorem map_toLower_singular (listed : ending ∈ endings) :
    ending.singular.toList.map Char.toLower = ending.singular.toList := by
  rcases singular_eq_nil_or_isSnakeWord listed with empty | snake
  · rw [empty]
    rfl
  · exact map_toLower_of_isSnakeWord snake

end

/-! ## Covered words -/

namespace Ending

/-- The ending is in one of the tables and covers the end of the word, and its
singular does not leave the word empty. -/
structure Covers (ending : Ending) (word : List Char) : Prop where
  listed : ending ∈ endings
  lowered : (ending.matched word).map Char.toLower = ending.plural.toList
  remains : ending.stem word ≠ [] ∨ ending.singular.toList ≠ []

variable {ending : Ending} {word : List Char}

theorem stem_append_matched (ending : Ending) (word : List Char) :
    ending.stem word ++ ending.matched word = word :=
  List.take_append_drop _ word

theorem matchesEnd_iff :
    ending.matchesEnd word = true ↔
      (ending.matched word).map Char.toLower = ending.plural.toList := by
  rw [matchesEnd, endsWithLatin, List.isSuffixOf_iff_suffix, List.suffix_iff_eq_drop,
    List.length_map, String.length_toList, ← List.map_drop, matched]
  exact eq_comm

theorem covers_of_ending? (found : ending? word = some ending) : ending.Covers word := by
  unfold ending? at found
  by_cases uncountable : isUncountable word = true
  · rw [if_pos uncountable] at found
    exact nomatch found
  · simp only [if_neg uncountable, Option.orElse_eq_orElse, Option.orElse_eq_or,
      Option.or_eq_some_iff] at found
    rcases found with irregular | ⟨_, regular⟩
    · have kept : ∀ ending ∈ irregularEndings, ending.singular.toList ≠ [] := by decide
      have member := List.mem_of_find?_eq_some irregular
      have matching := List.find?_some irregular
      exact ⟨List.mem_append_left _ member, matchesEnd_iff.1 matching,
        .inr (kept ending member)⟩
    · have kept : ∀ ending ∈ regularEndings,
          3 < ending.plural.length → ending.singular.toList ≠ [] := by decide
      have member := List.mem_of_find?_eq_some regular
      have fitting := List.find?_some regular
      rw [fits, Bool.and_eq_true, Bool.or_eq_true, decide_eq_true_eq, decide_eq_true_eq]
        at fitting
      rcases fitting with ⟨matching, longer | long⟩
      · refine ⟨List.mem_append_right _ member, matchesEnd_iff.1 matching, .inl ?_⟩
        rw [stem, ← List.length_pos_iff, List.length_take]
        omega
      · exact ⟨List.mem_append_right _ member, matchesEnd_iff.1 matching,
          .inr (kept ending member long)⟩

theorem Covers.isLower_toLower (covers : ending.Covers word) :
    ∀ c ∈ ending.matched word, c.toLower.isLower = true := by
  intro c member
  apply isLower_of_mem_plural covers.listed
  rw [← covers.lowered]
  exact List.mem_map_of_mem member

theorem Covers.exists_cons (covers : ending.Covers word) :
    ∃ first rest, ending.matched word = first :: rest ∧ first.toLower.isLower = true := by
  have letters := covers.isLower_toLower
  have lowered := covers.lowered
  cases covered : ending.matched word with
  | nil =>
      rw [covered] at lowered
      exact absurd lowered.symm (plural_ne_nil covers.listed)
  | cons first rest =>
      rw [covered] at letters
      exact ⟨first, rest, rfl, letters first List.mem_cons_self⟩

/-- The singular takes over the case of the first letter that it replaces. -/
theorem replacement_cons (listed : ending ∈ endings) {first : Char} {rest : List Char}
    (letter : first.toLower.isLower = true) :
    ending.replacement (first :: rest) =
      if first.isUpper then capitalized ending.singular.toList
      else ending.singular.toList := by
  rw [replacement, List.head?_cons, Option.any_some, isUppercase_of_letter letter,
    titleChars_singular listed]

theorem Covers.map_toLower_replacement (covers : ending.Covers word) :
    (ending.replacement (ending.matched word)).map Char.toLower = ending.singular.toList := by
  rcases covers.exists_cons with ⟨first, rest, covered, letter⟩
  rw [covered, replacement_cons covers.listed letter]
  by_cases capital : first.isUpper = true
  · rw [if_pos capital]
    exact map_toLower_capitalized_singular covers.listed
  · rw [if_neg capital]
    exact map_toLower_singular covers.listed

end Ending

end TypedSql.Naming
