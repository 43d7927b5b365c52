import TypedSql.Proofs.SnakeCase

/-!
# Names of variables

Empty words, which stand between underscores that follow each other, add nothing to
the name of a variable. But its first word is the one before the first underscore,
empty or not: behind an underscore at the start of a name, no word is lowercased.
-/

namespace TypedSql.Naming

/-! ## Visible words -/

/-- The words of a name that are not empty. -/
def visibleWords (name : String) : List (List Char) :=
  (words name).filter fun word => word ≠ []

/-- The name with a single underscore between visible words, and with no other
underscores. -/
def tidied (name : String) : String :=
  String.ofList (['_'].intercalate (visibleWords name))

theorem words_tidied {name : String} (visible : visibleWords name ≠ []) :
    words (tidied name) = visibleWords name := by
  rw [words, tidied, String.toList_ofList]
  refine List.splitOn_intercalate '_' ?_ visible
  intro word member
  exact Text.notMem_of_mem_splitOn (List.mem_of_mem_filter member)

theorem flatMap_exportWord_filter (pieces : List (List Char)) :
    (pieces.filter fun word => word ≠ []).flatMap exportWord = pieces.flatMap exportWord := by
  induction pieces with
  | nil => rfl
  | cons word rest inductionHypothesis =>
      by_cases empty : word = []
      · rw [List.filter_cons_of_neg (by simpa using empty), inductionHypothesis,
          List.flatMap_cons, empty]
        rfl
      · rw [List.filter_cons_of_pos (by simpa using empty), List.flatMap_cons,
          inductionHypothesis, List.flatMap_cons]

/-! ## The word before the first underscore -/

theorem words_of_leading_underscore {name : String} (leading : name.toList.head? = some '_') :
    ∃ others, words name = [] :: others := by
  rcases List.head?_eq_some_iff.1 leading with ⟨rest, letters⟩
  refine ⟨rest.splitOn '_', ?_⟩
  rw [words, letters, List.splitOn_cons_eq_if_modifyHead, if_pos (beq_self_eq_true '_')]

theorem words_of_no_leading_underscore {name : String} (filled : name ≠ "")
    (plain : name.toList.head? ≠ some '_') :
    ∃ first others, words name = first :: others ∧ first ≠ [] := by
  rcases List.exists_cons_of_ne_nil (String.toList_eq_nil_iff.not.2 filled) with
    ⟨c, rest, letters⟩
  rcases List.exists_cons_of_ne_nil (List.splitOn_ne_nil '_' rest) with
    ⟨first, others, split⟩
  refine ⟨c :: first, others, ?_, List.cons_ne_nil c first⟩
  have different : ¬ (c == '_') = true := by
    intro same
    rw [letters, List.head?_cons, beq_iff_eq.1 same] at plain
    exact plain rfl
  rw [words, letters, List.splitOn_cons_eq_if_modifyHead, if_neg different, split]
  rfl

theorem localName_of_words {name : String} {first : List Char} {others : List (List Char)}
    (split : words name = first :: others) :
    localName name = String.ofList (Text.lowerAll first ++ others.flatMap exportWord) := by
  rw [localName, split]

/-- Behind an underscore at the start, each word is written as in an exported
identifier. -/
theorem localName_of_leading_underscore {name : String}
    (leading : name.toList.head? = some '_') : localName name = exported name := by
  rcases words_of_leading_underscore leading with ⟨others, split⟩
  rw [localName_of_words split, exported, split]
  rfl

section

variable {name : String} {first : List Char} {others : List (List Char)}

theorem localName_tidied (visible : visibleWords name = first :: others) :
    localName (tidied name) =
      String.ofList (Text.lowerAll first ++ others.flatMap exportWord) := by
  have someVisible : visibleWords name ≠ [] := by
    rw [visible]
    exact List.cons_ne_nil first others
  exact localName_of_words ((words_tidied someVisible).trans visible)

theorem localName_eq_tidied_of_no_leading_underscore
    (visible : visibleWords name = first :: others)
    (plain : name.toList.head? ≠ some '_') :
    localName name = localName (tidied name) := by
  have filled : name ≠ "" := by
    rintro rfl
    exact nomatch visible
  rcases words_of_no_leading_underscore filled plain with
    ⟨word, rest, split, visibleWord⟩
  have visibleSplit : visibleWords name = word :: rest.filter fun word => word ≠ [] := by
    rw [visibleWords, split, List.filter_cons_of_pos (by simpa using visibleWord)]
  rw [localName_tidied visibleSplit, localName_of_words split, flatMap_exportWord_filter]

theorem exported_eq_of_visibleWords (visible : visibleWords name = first :: others) :
    exported name = String.ofList (exportWord first ++ others.flatMap exportWord) := by
  rw [exported, ← flatMap_exportWord_filter, ← visibleWords, visible, List.flatMap_cons]

end

/-! ## Words that start with a letter -/

theorem toNat_lt_of_isAlpha {c : Char} (letter : c.isAlpha = true) : c.toNat < 128 := by
  have eitherCase : (c.isUpper || c.isLower) = true := letter
  rcases Bool.or_eq_true_iff.1 eitherCase with capital | small
  · exact toNat_lt_of_isUpper capital
  · exact toNat_lt_of_isLower small

theorem head?_exportWord {c : Char} (latin : c.toNat < 128) (letters : List Char) :
    (exportWord (c :: letters)).head? = some c.toUpper := by
  unfold exportWord
  by_cases isId : c :: letters = ['i', 'd']
  · rw [if_pos isId, (List.cons.inj isId).1]
    rfl
  · rw [if_neg isId, titleChars, titleAfter, if_pos (by decide), Text.upper, if_pos latin]
    rfl

theorem head?_lowerAll {c : Char} (latin : c.toNat < 128) (letters : List Char) :
    (Text.lowerAll (c :: letters)).head? = some c.toLower := by
  have notSigma : c ≠ 'Σ' := by
    rintro rfl
    exact absurd latin (by decide)
  rw [Text.lowerAll, Text.lowerAfter, Text.lowerWithin, if_neg notSigma, Text.lower,
    if_pos latin]
  rfl

/-- A word that starts with a letter tells whether it was lowercased. -/
theorem exportWord_ne_lowerAll {word : List Char}
    (letter : word.head?.any Char.isAlpha = true) : exportWord word ≠ Text.lowerAll word := by
  cases word with
  | nil => exact absurd letter Bool.false_ne_true
  | cons c letters =>
      rw [List.head?_cons, Option.any_some] at letter
      have latin := toNat_lt_of_isAlpha letter
      have cased : c.toUpper ≠ c.toLower :=
        of_toNat_lt (P := fun c => c.isAlpha = true → c.toUpper ≠ c.toLower)
          (by decide +kernel) latin letter
      intro same
      have starts := congrArg List.head? same
      rw [head?_exportWord latin, head?_lowerAll latin] at starts
      exact cased (Option.some.inj starts)

/-! ## Underscores in names of variables -/

/-- Underscores at the end of a name, and between its words, make no difference to the
name of a variable. One at the start makes an exported identifier of it, so that its
first visible word is not lowercased; this is a difference if the word starts with a
letter. -/
theorem localName_eq_localName_tidied_iff
    {name : String} {first : List Char} {others : List (List Char)}
    (visible : visibleWords name = first :: others) :
    words (tidied name) = first :: others ∧
      localName (tidied name) =
        String.ofList (Text.lowerAll first ++ others.flatMap exportWord) ∧
      (localName name = localName (tidied name) ↔
        (name.toList.head? = some '_' → exportWord first = Text.lowerAll first)) ∧
      (name.toList.head? = some '_' → localName name = exported name) ∧
      (first.head?.any Char.isAlpha = true →
        (localName name = localName (tidied name) ↔ name.toList.head? ≠ some '_')) := by
  have someVisible : visibleWords name ≠ [] := by
    rw [visible]
    exact List.cons_ne_nil first others
  have agree : localName name = localName (tidied name) ↔
      (name.toList.head? = some '_' → exportWord first = Text.lowerAll first) := by
    by_cases leading : name.toList.head? = some '_'
    · rw [localName_of_leading_underscore leading, exported_eq_of_visibleWords visible,
        localName_tidied visible, String.ofList_inj, List.append_left_inj]
      exact ⟨fun same _ => same, fun same => same leading⟩
    · exact iff_of_true (localName_eq_tidied_of_no_leading_underscore visible leading)
        fun atStart => absurd atStart leading
  refine ⟨(words_tidied someVisible).trans visible, localName_tidied visible, agree,
    localName_of_leading_underscore, ?_⟩
  intro letter
  rw [agree]
  exact imp_congr_right fun _ => iff_false_intro (exportWord_ne_lowerAll letter)

theorem getUsersByID_tidied :
    visibleWords "get__users_by_id_" =
        ["get".toList, "users".toList, "by".toList, "id".toList] ∧
      tidied "get__users_by_id_" = "get_users_by_id" ∧
      localName "get__users_by_id_" = localName (tidied "get__users_by_id_") ∧
      localName "get__users_by_id_" = "getUsersByID" := by
  have visible : visibleWords "get__users_by_id_" =
      ["get".toList, "users".toList, "by".toList, "id".toList] := by decide +kernel
  have letter : "get".toList.head?.any Char.isAlpha = true := by decide +kernel
  have plain : "get__users_by_id_".toList.head? ≠ some '_' := by decide +kernel
  rcases localName_eq_localName_tidied_iff visible with ⟨_, _, _, _, ofLetter⟩
  exact ⟨visible, by decide +kernel, (ofLetter letter).2 plain, by decide +kernel⟩

/-- The first visible word of a name with an underscore at the start is not
lowercased. -/
theorem jobStatus_not_tidied :
    visibleWords "_job_status" = ["job".toList, "status".toList] ∧
      localName "_job_status" = "JobStatus" ∧
      localName (tidied "_job_status") = "jobStatus" ∧
      localName "_job_status" ≠ localName (tidied "_job_status") := by
  decide +kernel

end TypedSql.Naming
