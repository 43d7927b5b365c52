import Mathlib.Data.String.Basic
import TypedSql.Proofs.WordEndings

/-!
# Singulars of words

The word is cut where the plural ending starts, which is between two of its
characters, also if it has other letters than Latin ones. What takes the place of
the ending starts in the same case, but goes on with small letters. So a word that
is a singular already stays if its ending has no capital behind the first letter.
-/

namespace TypedSql.Naming

/-- Whether a text starts with an uppercase character. -/
def startsUppercase (text : String) : Bool :=
  text.toList.head?.any Text.isUppercase

theorem singularize_of_ending?_eq_none {word : String}
    (missing : ending? word.toList = none) : singularize word = word := by
  rw [singularize, missing]

theorem singularize_of_ending?_eq_some {word : String} {ending : Ending}
    (found : ending? word.toList = some ending) :
    singularize word = String.ofList (ending.apply word.toList) := by
  rw [singularize, found]

/-! ## The cut -/

/-- An ASCII text has as many bytes as characters. -/
theorem utf8Len_eq_length {cs : List Char} (ascii : ∀ c ∈ cs, c.toNat < 128) :
    String.utf8Len cs = cs.length := by
  induction cs with
  | nil => rfl
  | cons first rest ih =>
      rcases List.forall_mem_cons.1 ascii with ⟨asciiFirst, asciiRest⟩
      have single : first.utf8Size = 1 := by
        rw [Char.utf8Size_eq_one_iff, UInt32.le_iff_toNat_le]
        exact Nat.le_of_lt_succ asciiFirst
      rw [String.utf8Len_cons, List.length_cons, ih asciiRest, single]

namespace Ending

/-- The word is a stem and a part that the ending covers. The bytes of the ending,
counted back from the end of the word, lead to the start of a character. -/
structure Cuts (ending : Ending) (word stem covered : String) : Prop where
  joined : word = stem ++ covered
  lowered : Text.lowerLatin covered = ending.plural
  fitting : ending.plural.utf8ByteSize ≤ word.utf8ByteSize
  stemSize : stem.utf8ByteSize = word.utf8ByteSize - ending.plural.utf8ByteSize
  between : String.Pos.Raw.IsValid word
    ⟨word.utf8ByteSize - ending.plural.utf8ByteSize⟩

/-- What takes the place of the part that the ending covers. -/
def inPlaceOf (ending : Ending) (covered : String) : String :=
  if startsUppercase covered then titleCase ending.singular else ending.singular

variable {ending : Ending} {word : List Char}

theorem ofList_replacement (ending : Ending) (covered : List Char) :
    String.ofList (ending.replacement covered) =
      ending.inPlaceOf (String.ofList covered) := by
  rw [replacement, inPlaceOf, startsUppercase, String.toList_ofList]
  by_cases capital : covered.head?.any Text.isUppercase = true
  · rw [if_pos capital, if_pos capital, titleCase]
  · rw [if_neg capital, if_neg capital, String.ofList_toList]

/-- The covered part consists of Latin letters, so it has the bytes of the plural. -/
theorem Covers.utf8ByteSize_matched (covers : ending.Covers word) :
    (String.ofList (ending.matched word)).utf8ByteSize = ending.plural.utf8ByteSize := by
  have asciiCovered : ∀ c ∈ ending.matched word, c.toNat < 128 :=
    fun c member => toNat_lt_of_isLower_toLower (covers.isLower_toLower c member)
  have asciiPlural : ∀ c ∈ ending.plural.toList, c.toNat < 128 :=
    fun c member => toNat_lt_of_isLower (isLower_of_mem_plural covers.listed c member)
  have sameLength := congrArg List.length covers.lowered
  rw [List.length_map] at sameLength
  calc
    (String.ofList (ending.matched word)).utf8ByteSize = (ending.matched word).length := by
      rw [String.utf8ByteSize_ofList, utf8Len_eq_length asciiCovered]
    _ = String.utf8Len ending.plural.toList := by
      rw [sameLength, utf8Len_eq_length asciiPlural]
    _ = ending.plural.utf8ByteSize := by
      rw [← String.utf8ByteSize_ofList, String.ofList_toList]

theorem Covers.cuts {word : String} (covers : ending.Covers word.toList) :
    ending.Cuts word (String.ofList (ending.stem word.toList))
      (String.ofList (ending.matched word.toList)) := by
  have joined : word = String.ofList (ending.stem word.toList) ++
      String.ofList (ending.matched word.toList) := by
    rw [← String.ofList_append, stem_append_matched, String.ofList_toList]
  have sizes := congrArg String.utf8ByteSize joined
  rw [String.utf8ByteSize_append, covers.utf8ByteSize_matched] at sizes
  have stemSize : (String.ofList (ending.stem word.toList)).utf8ByteSize =
      word.utf8ByteSize - ending.plural.utf8ByteSize := by omega
  refine ⟨joined, ?_, by omega, stemSize, ?_⟩
  · rw [Text.lowerLatin, String.toList_ofList, covers.lowered, String.ofList_toList]
  · rw [String.Pos.Raw.isValid_iff_exists_append]
    exact ⟨_, _, joined, congrArg String.Pos.Raw.mk stemSize.symm⟩

/-! ## The case of the first character -/

theorem Covers.replacement_ne_nil_or (covers : ending.Covers word) :
    ending.stem word ≠ [] ∨ ending.replacement (ending.matched word) ≠ [] := by
  rcases covers.remains with stem | singular
  · exact .inl stem
  · right
    intro empty
    have lowered := covers.map_toLower_replacement
    rw [empty] at lowered
    exact singular lowered.symm

theorem Covers.head?_replacement (covers : ending.Covers word)
    (filled : ending.replacement (ending.matched word) ≠ []) :
    (ending.replacement (ending.matched word)).head?.any Text.isUppercase =
      (ending.matched word).head?.any Text.isUppercase := by
  rcases covers.exists_cons with ⟨first, rest, covered, letter⟩
  rw [covered] at filled ⊢
  rw [replacement_cons covers.listed letter] at filled ⊢
  rw [List.head?_cons, Option.any_some, isUppercase_of_letter letter]
  rcases singular_eq_nil_or_isSnakeWord covers.listed with empty | snake
  · rw [empty, capitalized, ite_self] at filled
    exact absurd rfl filled
  · by_cases capital : first.isUpper = true
    · rw [if_pos capital, capital, head?_capitalized snake]
    · rw [if_neg capital, Bool.eq_false_of_not_eq_true capital,
        head?_of_isSnakeWord snake]

theorem Covers.head?_apply (covers : ending.Covers word) :
    (ending.apply word).head?.any Text.isUppercase = word.head?.any Text.isUppercase := by
  have joined := stem_append_matched ending word
  rw [apply]
  cases start : ending.stem word with
  | nil =>
      rw [start, List.nil_append] at joined
      have filled := covers.replacement_ne_nil_or.resolve_left (not_not_intro start)
      rw [List.nil_append, covers.head?_replacement filled, joined]
  | cons first rest =>
      rw [start] at joined
      rw [← joined]
      rfl

theorem Covers.apply_ne_nil (covers : ending.Covers word) : ending.apply word ≠ [] := by
  rw [apply, Ne, List.append_eq_nil_iff, not_and_or]
  exact covers.replacement_ne_nil_or

/-! ## Words in small letters -/

theorem stem_map_toLower (ending : Ending) (word : List Char) :
    ending.stem (word.map Char.toLower) = (ending.stem word).map Char.toLower := by
  rw [stem, stem, List.length_map, List.map_take]

theorem matched_map_toLower (ending : Ending) (word : List Char) :
    ending.matched (word.map Char.toLower) = (ending.matched word).map Char.toLower := by
  rw [matched, matched, List.length_map, List.map_drop]

theorem Covers.apply_map_toLower (covers : ending.Covers word) :
    ending.apply (word.map Char.toLower) = (ending.apply word).map Char.toLower := by
  rcases covers.exists_cons with ⟨first, rest, covered, letter⟩
  have small : first.toLower.isUpper = false := isUpper_of_isLower letter
  have kept : ending.replacement (first.toLower :: rest.map Char.toLower) =
      ending.singular.toList := by
    have letterAgain : first.toLower.toLower.isLower = true := by
      rw [Text.toLower_toLower]
      exact letter
    rw [replacement_cons covers.listed letterAgain, small, if_neg Bool.false_ne_true]
  rw [apply, apply, List.map_append, covers.map_toLower_replacement, stem_map_toLower,
    matched_map_toLower, covered, List.map_cons, kept]

end Ending

theorem endsWithLatin_map_toLower (word ending : List Char) :
    endsWithLatin (word.map Char.toLower) ending = endsWithLatin word ending := by
  rw [endsWithLatin, endsWithLatin, List.map_map]
  congr 1
  exact List.map_congr_left fun c _ => Text.toLower_toLower c

theorem isUncountable_map_toLower (word : List Char) :
    isUncountable (word.map Char.toLower) = isUncountable word := by
  simp only [isUncountable, endsWithLatin_map_toLower]

theorem Ending.matchesEnd_map_toLower (ending : Ending) (word : List Char) :
    ending.matchesEnd (word.map Char.toLower) = ending.matchesEnd word :=
  endsWithLatin_map_toLower word ending.plural.toList

theorem ending?_map_toLower (word : List Char) :
    ending? (word.map Char.toLower) = ending? word := by
  rw [ending?, ending?, isUncountable_map_toLower]
  simp only [Ending.fits, Ending.matchesEnd_map_toLower, List.length_map]

/-! ## Singulars -/

/-- The singular of a word is the word itself, or its ending is replaced after a
cut at the start of a character. It is only empty if the word is, and starts with
an uppercase character exactly if the word does. In small letters it is the singular
of the word in small letters. -/
theorem singularize_keeps_case (word : String) :
    (ending? word.toList = none ∧ singularize word = word ∨
        ∃ ending stem covered, ending? word.toList = some ending ∧
          ending.Cuts word stem covered ∧
          singularize word = stem ++ ending.inPlaceOf covered) ∧
      (word ≠ "" →
        singularize word ≠ "" ∧
          startsUppercase (singularize word) = startsUppercase word) ∧
      Text.lowerLatin (singularize word) = singularize (Text.lowerLatin word) := by
  have foundLowered : ending? (Text.lowerLatin word).toList = ending? word.toList := by
    rw [Text.lowerLatin, String.toList_ofList, ending?_map_toLower]
  cases found : ending? word.toList with
  | none =>
      rw [found] at foundLowered
      rw [singularize_of_ending?_eq_none found,
        singularize_of_ending?_eq_none foundLowered]
      exact ⟨.inl ⟨rfl, rfl⟩, fun filled => ⟨filled, rfl⟩, rfl⟩
  | some ending =>
      rw [found] at foundLowered
      have covers := Ending.covers_of_ending? found
      rw [singularize_of_ending?_eq_some found,
        singularize_of_ending?_eq_some foundLowered]
      refine ⟨.inr ⟨ending, _, _, rfl, covers.cuts, ?_⟩, fun _ => ⟨?_, ?_⟩, ?_⟩
      · rw [Ending.apply, String.ofList_append, Ending.ofList_replacement]
      · rw [Ne, String.ofList_eq_empty_iff]
        exact covers.apply_ne_nil
      · rw [startsUppercase, String.toList_ofList, covers.head?_apply, startsUppercase]
      · rw [Text.lowerLatin, String.toList_ofList, Text.lowerLatin, String.toList_ofList,
          covers.apply_map_toLower]

theorem analyses_keep_case :
    "ÉtudeAnalySES" ≠ "" ∧
      (∃ ending stem covered, ending? "ÉtudeAnalySES".toList = some ending ∧
        ending.Cuts "ÉtudeAnalySES" stem covered ∧
        singularize "ÉtudeAnalySES" = stem ++ ending.inPlaceOf covered) ∧
      singularize "ÉtudeAnalySES" = "ÉtudeAnalysis" ∧
      (singularize "ÉtudeAnalySES" ≠ "" ∧
        startsUppercase (singularize "ÉtudeAnalySES") = startsUppercase "ÉtudeAnalySES") ∧
      Text.lowerLatin (singularize "ÉtudeAnalySES") =
        singularize (Text.lowerLatin "ÉtudeAnalySES") := by
  have filled : "ÉtudeAnalySES" ≠ "" := by decide
  have found : ending? "ÉtudeAnalySES".toList = some ⟨"analyses", "analysis"⟩ := by
    decide +kernel
  rcases singularize_keeps_case "ÉtudeAnalySES" with ⟨outcome, kept, lowered⟩
  have replaced := outcome.resolve_left fun stays => nomatch found.symm.trans stays.1
  exact ⟨filled, replaced, by decide +kernel, kept filled, lowered⟩

/-! ## Endings that stay -/

/-- The first character as it is, and the others in small letters. -/
def lowerBehindFirst : List Char → List Char
  | [] => []
  | first :: rest => first :: rest.map Char.toLower

theorem lowerBehindFirst_eq_self_iff {cs : List Char} :
    lowerBehindFirst cs = cs ↔ ∀ c ∈ cs.tail, c.isUpper = false := by
  cases cs with
  | nil => exact ⟨fun _ _ member => absurd member List.not_mem_nil, fun _ => rfl⟩
  | cons first rest =>
      rw [lowerBehindFirst, List.cons_inj_right, map_toLower_eq_self_iff, List.tail_cons]

namespace Ending

variable {ending : Ending}

theorem ofList_stem_append_eq_iff {word : String} {tail : List Char} :
    String.ofList (ending.stem word.toList ++ tail) = word ↔
      tail = ending.matched word.toList := by
  have joined := stem_append_matched ending word.toList
  constructor
  · intro same
    have texts := congrArg String.toList same
    rw [String.toList_ofList] at texts
    exact List.append_cancel_left (texts.trans joined.symm)
  · intro same
    rw [same, joined, String.ofList_toList]

/-- An ending that is its own singular is written anew from its first letter on. -/
theorem Covers.replacement_of_plural_eq_singular {word : List Char}
    (covers : ending.Covers word) (guard : ending.plural = ending.singular) :
    ending.replacement (ending.matched word) = lowerBehindFirst (ending.matched word) := by
  rcases covers.exists_cons with ⟨first, rest, covered, letter⟩
  have lowered := covers.lowered
  rw [guard, covered, List.map_cons] at lowered
  rw [covered, replacement_cons covers.listed letter, ← lowered, lowerBehindFirst]
  by_cases capital : first.isUpper = true
  · rw [if_pos capital, capitalized, toUpper_toLower letter capital]
  · rw [if_neg capital, toLower_eq_self_iff.2 (Bool.eq_false_of_not_eq_true capital)]

end Ending

/-- A word whose ending is its own singular gets small letters behind the first
letter of the ending. So it stays if and only if it has no capital there. -/
theorem singular_word_stays_iff {word : String} {ending : Ending}
    (found : ending? word.toList = some ending)
    (guard : ending.plural = ending.singular) :
    ending.plural ∈ ["alias", "status", "sis", "ss", "us"] ∧
      singularize word =
        String.ofList (ending.stem word.toList ++
          lowerBehindFirst (ending.matched word.toList)) ∧
      (singularize word = word ↔
        ∀ c ∈ (ending.matched word.toList).tail, c.isUpper = false) := by
  have covers := Ending.covers_of_ending? found
  have result : singularize word =
      String.ofList (ending.stem word.toList ++
        lowerBehindFirst (ending.matched word.toList)) := by
    rw [singularize_of_ending?_eq_some found, Ending.apply,
      covers.replacement_of_plural_eq_singular guard]
  have guards : ∀ ending ∈ endings, ending.plural = ending.singular →
      ending.plural ∈ ["alias", "status", "sis", "ss", "us"] := by decide
  refine ⟨guards ending covers.listed guard, result, ?_⟩
  rw [result, Ending.ofList_stem_append_eq_iff, lowerBehindFirst_eq_self_iff]

theorem status_stays :
    ending? "AUDITStatus".toList = some ⟨"status", "status"⟩ ∧
      singularize "AUDITStatus" = "AUDITStatus" := by
  have found : ending? "AUDITStatus".toList = some ⟨"status", "status"⟩ := by
    decide +kernel
  have plain : (Ending.matched ⟨"status", "status"⟩ "AUDITStatus".toList).tail.all
      (fun c => c.isUpper = false) = true := by decide +kernel
  have stays := (singular_word_stays_iff found rfl).2.2
  exact ⟨found, stays.2 fun c member =>
    of_decide_eq_true (List.all_eq_true.1 plain c member)⟩

/-- A word in capitals may have an ending that is its own singular and yet change. -/
theorem virus_does_not_stay :
    ending? "VIRUS".toList = some ⟨"us", "us"⟩ ∧
      singularize "VIRUS" = "VIRUs" ∧ singularize "VIRUS" ≠ "VIRUS" := by
  decide +kernel

end TypedSql.Naming
