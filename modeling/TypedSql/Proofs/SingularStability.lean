import Mathlib.Data.List.Find
import TypedSql.Naming.Identifier
import TypedSql.Proofs.SingularWords

/-!
# Singulars of singulars

A singular may itself end like a plural: `alias`, `bus`, `crisis` and `class` have
an `s` at the end. Endings that are their own singular come before the bare `s` and
keep such words. They keep all singulars that the tables give but two: no ending
keeps `axis`, and the ending `ss` does not keep the word `ss`.
-/

namespace TypedSql.Naming

/-! ## Endings of joined texts -/

/-- How a text ends does not depend on what stands before it, as far as no ending is
longer than the text and ends with it. -/
theorem endsWithLatin_append {tail ending : List Char} (stem : List Char)
    (short : tail.map Char.toLower <:+ ending → ending.length ≤ tail.length) :
    endsWithLatin (stem ++ tail) ending = endsWithLatin tail ending := by
  have own : tail.map Char.toLower <:+ (stem ++ tail).map Char.toLower := by
    rw [List.map_append]
    exact List.suffix_append _ _
  rw [Bool.eq_iff_iff, endsWithLatin, endsWithLatin, List.isSuffixOf_iff_suffix,
    List.isSuffixOf_iff_suffix]
  constructor
  · intro found
    by_cases within : ending.length ≤ tail.length
    · exact List.suffix_of_suffix_length_le found own (by rwa [List.length_map])
    · have covered : tail.map Char.toLower <:+ ending :=
        List.suffix_of_suffix_length_le own found (by rw [List.length_map]; omega)
      exact absurd (short covered) within
  · intro found
    exact found.trans own

theorem isUncountable_append {tail : List Char} (stem : List Char)
    (short : ∀ ending ∈ uncountableEndings,
      tail.map Char.toLower <:+ ending.toList → ending.toList.length ≤ tail.length) :
    isUncountable (stem ++ tail) = isUncountable tail := by
  have ends : ∀ ending ∈ uncountableEndings,
      endsWithLatin (stem ++ tail) ending.toList = endsWithLatin tail ending.toList :=
    fun ending listed => endsWithLatin_append stem (short ending listed)
  rw [Bool.eq_iff_iff, isUncountable, isUncountable, List.any_eq_true, List.any_eq_true]
  constructor
  · rintro ⟨ending, listed, found⟩
    exact ⟨ending, listed, by rwa [← ends ending listed]⟩
  · rintro ⟨ending, listed, found⟩
    exact ⟨ending, listed, by rwa [ends ending listed]⟩

theorem Ending.length_le_of_matchesEnd {ending : Ending} {word : List Char}
    (matching : ending.matchesEnd word = true) : ending.plural.length ≤ word.length := by
  rw [matchesEnd, endsWithLatin, List.isSuffixOf_iff_suffix] at matching
  have shorter := matching.length_le
  rwa [List.length_map, String.length_toList] at shorter

/-- Behind a stem, no plural is too short to be replaced. -/
theorem ending?_append {stem tail : List Char} (inside : stem ≠ [])
    (short : ∀ ending ∈ endings,
      tail.map Char.toLower <:+ ending.plural.toList →
        ending.plural.toList.length ≤ tail.length) :
    ending? (stem ++ tail) =
      if isUncountable (stem ++ tail) then none
      else endings.find? fun ending => ending.matchesEnd tail := by
  have ends : ∀ ending ∈ endings,
      ending.matchesEnd (stem ++ tail) = ending.matchesEnd tail :=
    fun ending listed => endsWithLatin_append stem (short ending listed)
  have irregular : ∀ ending ∈ irregularEndings,
      ending.matchesEnd (stem ++ tail) = ending.matchesEnd tail :=
    fun ending listed => ends ending (List.mem_append_left _ listed)
  have regular : ∀ ending ∈ regularEndings,
      ending.fits (stem ++ tail) = ending.matchesEnd tail := by
    intro ending listed
    rw [Ending.fits, ends ending (List.mem_append_right _ listed)]
    by_cases matching : ending.matchesEnd tail = true
    · have shorter := Ending.length_le_of_matchesEnd matching
      have filled := List.length_pos_iff.2 inside
      have longer : ending.plural.length < (stem ++ tail).length := by
        rw [List.length_append]
        omega
      rw [matching, decide_eq_true longer, Bool.true_or, Bool.and_true]
    · rw [Bool.eq_false_of_not_eq_true matching, Bool.false_and]
  rw [ending?, Option.orElse_eq_orElse, Option.orElse_eq_or, endings, List.find?_append,
    List.find?_congr irregular, List.find?_congr regular]

/-! ## Endings of singulars -/

namespace Ending

variable {ending : Ending} {word : List Char}

/-- The bare `s`, which is dropped. -/
def bare : Ending := ⟨"s", ""⟩

theorem bare_apply (word : List Char) : bare.apply word = word.dropLast := by
  have nothing : bare.replacement (bare.matched word) = [] := by
    rw [replacement]
    split
    · rfl
    · rfl
  rw [apply, nothing, List.append_nil, List.dropLast_eq_take]
  rfl

theorem Covers.map_toLower_apply (covers : ending.Covers word) :
    (ending.apply word).map Char.toLower =
      (ending.stem word).map Char.toLower ++ ending.singular.toList := by
  rw [apply, List.map_append, covers.map_toLower_replacement]

theorem Covers.ending?_apply (covers : ending.Covers word) :
    ending? (ending.apply word) =
      ending? ((ending.stem word).map Char.toLower ++ ending.singular.toList) := by
  rw [← ending?_map_toLower, covers.map_toLower_apply]

/-- An ending that is its own singular is found again. -/
theorem Covers.ending?_apply_of_plural_eq_singular (covers : ending.Covers word)
    (guard : ending.plural = ending.singular) :
    ending? (ending.apply word) = ending? word := by
  rw [covers.ending?_apply, ← guard, ← covers.lowered, ← List.map_append,
    stem_append_matched, ending?_map_toLower]

/-- No plural is longer than the singular of another ending and ends with it. -/
theorem length_plural_le_of_suffix :
    ∀ ending ∈ endings, ending.plural ≠ ending.singular → ending.singular ≠ "" →
      ∀ next ∈ endings, ending.singular.toList <:+ next.plural.toList →
        next.plural.toList.length ≤ ending.singular.toList.length := by
  decide +kernel

theorem Covers.ending?_apply_of_stem_ne_nil (covers : ending.Covers word)
    (changes : ending.plural ≠ ending.singular) (filled : ending.singular ≠ "")
    (inside : ending.stem word ≠ []) :
    ending? (ending.apply word) =
      if isUncountable (ending.apply word) then none
      else endings.find? fun next => next.matchesEnd ending.singular.toList := by
  have short : ∀ next ∈ endings,
      ending.singular.toList.map Char.toLower <:+ next.plural.toList →
        next.plural.toList.length ≤ ending.singular.toList.length := by
    rw [map_toLower_singular covers.listed]
    exact length_plural_le_of_suffix ending covers.listed changes filled
  rw [covers.ending?_apply, ending?_append (List.map_eq_nil_iff.not.2 inside) short,
    ← covers.map_toLower_apply, isUncountable_map_toLower]

/-- The ending `next` leaves the singular of `ending` as it is: it is its own
singular, and no longer than what was put in the place of the plural. -/
structure KeptBy (ending next : Ending) : Prop where
  guard : next.plural = next.singular
  within : next.plural.length ≤ ending.singular.length

instance (ending next : Ending) : Decidable (ending.KeptBy next) :=
  decidable_of_iff
    (next.plural = next.singular ∧ next.plural.length ≤ ending.singular.length)
    ⟨fun ⟨guard, within⟩ => ⟨guard, within⟩, fun ⟨guard, within⟩ => ⟨guard, within⟩⟩

theorem keptBy_of_whole_word :
    ∀ ending ∈ endings, ending.plural ≠ ending.singular → ending.singular ≠ "" →
      ending.plural ≠ "axes" → ending.plural ≠ "sses" →
        ∀ next ∈ ending? ending.singular.toList, ending.KeptBy next := by
  decide +kernel

theorem keptBy_of_stem :
    ∀ ending ∈ endings, ending.plural ≠ ending.singular → ending.singular ≠ "" →
      ending.plural ≠ "axes" →
        ∀ next ∈ endings.find? fun next => next.matchesEnd ending.singular.toList,
          ending.KeptBy next := by
  decide +kernel

/-- The plural is `axes`, or the whole word is `sses`: the singular, `axis` or `ss`,
ends with a bare `s`. -/
def Overlooked (ending : Ending) (word : List Char) : Prop :=
  ending.plural = "axes" ∨ ending.plural = "sses" ∧ ending.stem word = []

theorem keptBy_of_not_overlooked (found : ending? word = some ending)
    (filled : ending.singular ≠ "") (settled : ¬ ending.Overlooked word) :
    ∀ next ∈ ending? (ending.apply word), ending.KeptBy next := by
  have covers := covers_of_ending? found
  rw [Overlooked, not_or] at settled
  rcases settled with ⟨notAxes, notSses⟩
  intro next member
  by_cases guard : ending.plural = ending.singular
  · rw [covers.ending?_apply_of_plural_eq_singular guard, found, Option.mem_some_iff] at member
    rw [← member]
    exact ⟨guard, Nat.le_of_eq (congrArg String.length guard)⟩
  · by_cases whole : ending.stem word = []
    · rw [covers.ending?_apply, whole, List.map_nil, List.nil_append] at member
      exact keptBy_of_whole_word ending covers.listed guard filled notAxes
        (fun isSses => notSses ⟨isSses, whole⟩) next member
    · rw [covers.ending?_apply_of_stem_ne_nil guard filled whole] at member
      -- With its stem, the singular may be a word without plural, as in `fish`.
      by_cases uncountable : isUncountable (ending.apply word) = true
      · rw [if_pos uncountable] at member
        exact absurd member (Option.not_mem_none next)
      · rw [if_neg uncountable] at member
        exact keptBy_of_stem ending covers.listed guard filled notAxes next member

theorem Covers.isUncountable_axis (covers : ending.Covers word)
    (isAxis : ending.singular = "axis") : isUncountable (ending.apply word) = false := by
  have apart : ∀ other ∈ uncountableEndings,
      "axis".toList.map Char.toLower <:+ other.toList →
        other.toList.length ≤ "axis".toList.length := by
    decide +kernel
  rw [← isUncountable_map_toLower, covers.map_toLower_apply, isAxis,
    isUncountable_append _ apart]
  decide +kernel

theorem ending?_apply_of_overlooked (found : ending? word = some ending)
    (overlooked : ending.Overlooked word) :
    ending? (ending.apply word) = some bare := by
  have covers := covers_of_ending? found
  rcases overlooked with isAxes | ⟨isSses, whole⟩
  · have axes : ∀ ending ∈ endings, ending.plural = "axes" →
        ending.singular = "axis" := by decide
    have isAxis := axes ending covers.listed isAxes
    by_cases whole : ending.stem word = []
    · rw [covers.ending?_apply, whole, isAxis]
      decide +kernel
    · have changes : ending.plural ≠ ending.singular := by
        rw [isAxes, isAxis]
        decide
      have filled : ending.singular ≠ "" := by
        rw [isAxis]
        decide
      rw [covers.ending?_apply_of_stem_ne_nil changes filled whole,
        covers.isUncountable_axis isAxis, if_neg Bool.false_ne_true, isAxis]
      decide +kernel
  · have sses : ∀ ending ∈ endings, ending.plural = "sses" →
        ending.singular = "ss" := by decide
    rw [covers.ending?_apply, whole, sses ending covers.listed isSses]
    decide +kernel

/-! ## The second singular -/

theorem Covers.length_replacement (covers : ending.Covers word) :
    (ending.replacement (ending.matched word)).length = ending.singular.length := by
  have lowered := congrArg List.length covers.map_toLower_replacement
  rwa [List.length_map, String.length_toList] at lowered

/-- What takes the place of an ending has no capital behind its first letter. -/
theorem Covers.isUpper_of_mem_tail_replacement (covers : ending.Covers word) :
    ∀ c ∈ (ending.replacement (ending.matched word)).tail, c.isUpper = false := by
  have small := map_toLower_eq_self_iff.1 (map_toLower_singular covers.listed)
  have sameTail : (ending.replacement (ending.matched word)).tail =
      ending.singular.toList.tail := by
    rw [replacement, titleChars_singular covers.listed]
    split
    · cases ending.singular.toList with
      | nil => rfl
      | cons first rest => rfl
    · rfl
  rw [sameTail]
  intro c member
  exact small c (List.mem_of_mem_tail member)

theorem Covers.isUpper_of_mem_tail_matched {next : Ending} (covers : ending.Covers word)
    (within : next.plural.length ≤ ending.singular.length) :
    ∀ c ∈ (next.matched (ending.apply word)).tail, c.isUpper = false := by
  have sameLength := covers.length_replacement
  intro c member
  rw [matched, apply, List.length_append, List.tail_drop, List.drop_append,
    List.drop_eq_nil_of_le (by omega), List.nil_append] at member
  have behindFirst : (ending.stem word).length +
        (ending.replacement (ending.matched word)).length - next.plural.length + 1 -
      (ending.stem word).length =
      (ending.replacement (ending.matched word)).length - next.plural.length + 1 := by omega
  rw [behindFirst, ← List.drop_tail] at member
  exact covers.isUpper_of_mem_tail_replacement c (List.mem_of_mem_drop member)

theorem Covers.apply_of_keptBy {next : Ending} (covers : ending.Covers word)
    (later : next.Covers (ending.apply word)) (kept : ending.KeptBy next) :
    next.apply (ending.apply word) = ending.apply word := by
  have plain := covers.isUpper_of_mem_tail_matched kept.within
  calc
    next.apply (ending.apply word) =
        next.stem (ending.apply word) ++ lowerBehindFirst (next.matched (ending.apply word)) := by
      rw [← later.replacement_of_plural_eq_singular kept.guard, apply.eq_def next]
    _ = ending.apply word := by
      rw [lowerBehindFirst_eq_self_iff.2 plain, stem_append_matched]

theorem overlooked_iff {word : String} (found : ending? word.toList = some ending) :
    ending.Overlooked word.toList ↔
      ending.plural = "axes" ∨ Text.lowerLatin word = "sses" := by
  have covers := covers_of_ending? found
  have joined := stem_append_matched ending word.toList
  rw [Overlooked]
  refine or_congr_right ⟨?_, ?_⟩
  · rintro ⟨isSses, whole⟩
    rw [whole, List.nil_append] at joined
    rw [Text.lowerLatin, ← joined, covers.lowered, isSses, String.ofList_toList]
  · intro small
    have lowered : word.toList.map Char.toLower = "sses".toList := by
      rw [← small, Text.lowerLatin, String.toList_ofList]
    have isSses : some ending = some ⟨"sses", "ss"⟩ := by
      rw [← found, ← ending?_map_toLower, lowered]
      decide +kernel
    have sameLength := congrArg List.length lowered
    rw [List.length_map] at sameLength
    rw [Option.some.inj isSses, stem, sameLength]
    exact ⟨rfl, List.take_zero⟩

end Ending

theorem toList_singularize {word : String} {ending : Ending}
    (found : ending? word.toList = some ending) :
    (singularize word).toList = ending.apply word.toList := by
  rw [singularize_of_ending?_eq_some found, String.toList_ofList]

theorem singularize_singularize_of_not_overlooked {word : String} {ending : Ending}
    (found : ending? word.toList = some ending) (filled : ending.singular ≠ "")
    (settled : ¬ ending.Overlooked word.toList) :
    singularize (singularize word) = singularize word := by
  have covers := Ending.covers_of_ending? found
  have kept := Ending.keptBy_of_not_overlooked found filled settled
  have letters := toList_singularize found
  rw [← letters] at kept
  cases again : ending? (singularize word).toList with
  | none => exact singularize_of_ending?_eq_none again
  | some next =>
      have later := Ending.covers_of_ending? again
      rw [letters] at later
      rw [singularize_of_ending?_eq_some again, letters,
        covers.apply_of_keptBy later (kept next again), ← letters, String.ofList_toList]

theorem singularize_singularize_of_overlooked {word : String} {ending : Ending}
    (found : ending? word.toList = some ending) (overlooked : ending.Overlooked word.toList) :
    singularize (singularize word) = String.ofList (singularize word).toList.dropLast := by
  have again : ending? (singularize word).toList = some Ending.bare := by
    rw [toList_singularize found]
    exact Ending.ending?_apply_of_overlooked found overlooked
  rw [singularize_of_ending?_eq_some again, Ending.bare_apply]

theorem ofList_dropLast_ne {text : String} (filled : text ≠ "") :
    String.ofList text.toList.dropLast ≠ text := by
  intro same
  have letters : text.toList.dropLast = text.toList := by
    rw [← String.toList_ofList (l := text.toList.dropLast), same]
  have shorter := congrArg List.length letters
  have long := List.length_pos_iff.2 (String.toList_eq_nil_iff.not.2 filled)
  rw [List.length_dropLast] at shorter
  omega

/-- The struct name that a table is given by its settings or by its own name, before
its singular is taken. -/
def givenTypeName (settings : Settings) (table : String) : String :=
  ((settings.table? table).bind TableSettings.structName?).getD (identifier settings table)

/-- A singular that takes the place of a plural stays when its own singular is taken,
and so does a struct name that is given as such a singular. The only ones that change
are those for the plural `axes` and for the word `sses`: they lose their last letter. -/
theorem singularize_singularize_eq_iff {word : String} {ending : Ending}
    (found : ending? word.toList = some ending) (filled : ending.singular ≠ "") :
    singularize word =
        String.ofList (ending.stem word.toList) ++
          ending.inPlaceOf (String.ofList (ending.matched word.toList)) ∧
      (singularize (singularize word) = singularize word ↔
        ending.plural ≠ "axes" ∧ Text.lowerLatin word ≠ "sses") ∧
      (singularize (singularize word) ≠ singularize word →
        singularize (singularize word) =
          String.ofList (singularize word).toList.dropLast) ∧
      ∀ settings table, givenTypeName settings table = singularize word →
        (tableTypeName settings table = givenTypeName settings table ↔
          ending.plural ≠ "axes" ∧ Text.lowerLatin word ≠ "sses") := by
  have once := singularize_of_ending?_eq_some found
  have written : singularize word ≠ "" := by
    rw [once, Ne, String.ofList_eq_empty_iff]
    exact (Ending.covers_of_ending? found).apply_ne_nil
  have stays : singularize (singularize word) = singularize word ↔
      ending.plural ≠ "axes" ∧ Text.lowerLatin word ≠ "sses" := by
    rw [← not_or, ← Ending.overlooked_iff found]
    constructor
    · intro same overlooked
      rw [singularize_singularize_of_overlooked found overlooked] at same
      exact ofList_dropLast_ne written same
    · exact singularize_singularize_of_not_overlooked found filled
  refine ⟨?_, stays, ?_, ?_⟩
  · rw [once, Ending.apply, String.ofList_append, Ending.ofList_replacement]
  · intro changed
    apply singularize_singularize_of_overlooked found
    by_contra settled
    exact changed (singularize_singularize_of_not_overlooked found filled settled)
  · intro settings table given
    rw [← stays, ← given]
    rfl

/-- A table whose struct name is written as the singular of `MailADDRESSES`. -/
def addressSettings : Settings :=
  Settings.withTable {} "mail_addresses" { structName := some "MailADDRESs" }

theorem mailAddresses_stay :
    ending? "MailADDRESSES".toList = some ⟨"sses", "ss"⟩ ∧ "ss" ≠ "" ∧
      singularize "MailADDRESSES" = "MailADDRESs" ∧
      singularize (singularize "MailADDRESSES") = singularize "MailADDRESSES" ∧
      tableTypeName addressSettings "mail_addresses" =
        givenTypeName addressSettings "mail_addresses" := by
  have found : ending? "MailADDRESSES".toList = some ⟨"sses", "ss"⟩ := by decide +kernel
  have filled : "ss" ≠ "" := by decide
  have settled : "sses" ≠ "axes" ∧ Text.lowerLatin "MailADDRESSES" ≠ "sses" := by
    decide +kernel
  have once : singularize "MailADDRESSES" = "MailADDRESs" := by
    rw [singularize_of_ending?_eq_some found]
    decide +kernel
  have given : givenTypeName addressSettings "mail_addresses" =
      singularize "MailADDRESSES" := by
    rw [once]
    decide
  rcases singularize_singularize_eq_iff found filled with ⟨_, stays, _, named⟩
  exact ⟨found, filled, once, stays.2 settled,
    (named addressSettings "mail_addresses" given).2 settled⟩

/-- A table whose struct name is written as the singular of `Axes`. -/
def axisSettings : Settings :=
  Settings.withTable {} "axes" { structName := some "Axis" }

/-- The singular that the tables give for `Axes` is taken for a plural. -/
theorem axis_does_not_stay :
    ending? "Axes".toList = some ⟨"axes", "axis"⟩ ∧ singularize "Axes" = "Axis" ∧
      singularize "Axis" = "Axi" ∧
      singularize (singularize "Axes") ≠ singularize "Axes" ∧
      givenTypeName axisSettings "axes" = singularize "Axes" ∧
      tableTypeName axisSettings "axes" = "Axi" := by
  have found : ending? "Axes".toList = some ⟨"axes", "axis"⟩ := by decide +kernel
  have again : ending? "Axis".toList = some Ending.bare := by decide +kernel
  have once : singularize "Axes" = "Axis" := by
    rw [singularize_of_ending?_eq_some found]
    decide +kernel
  have twice : singularize "Axis" = "Axi" := by
    rw [singularize_of_ending?_eq_some again]
    decide +kernel
  have given : givenTypeName axisSettings "axes" = "Axis" := by decide
  rw [once, twice]
  exact ⟨found, rfl, rfl, by decide, given, (congrArg singularize given).trans twice⟩

end TypedSql.Naming
