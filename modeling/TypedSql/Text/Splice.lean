/-!
# Cutting and splicing texts

The last piece of a separated text, and the replacement of the leftmost
occurrence of a text.
-/

namespace TypedSql.Text

/-- The piece after the last separator; empty in a text without separators. -/
def afterLast (separator : Char) (text : List Char) : List Char :=
  ((text.splitOn separator).drop 1).getLast?.getD []

theorem notMem_of_mem_splitOn
    {separator : Char} {piece text : List Char} (member : piece ∈ text.splitOn separator) :
    separator ∉ piece := by
  induction text generalizing piece with
  | nil =>
      rw [List.splitOn_nil, List.mem_singleton] at member
      rw [member]
      exact List.not_mem_nil
  | cons c rest inductionHypothesis =>
      rw [List.splitOn_cons_eq_if_modifyHead] at member
      by_cases separates : (c == separator) = true
      · rw [if_pos separates] at member
        rcases List.mem_cons.1 member with rfl | later
        · exact List.not_mem_nil
        · exact inductionHypothesis later
      · rw [if_neg separates] at member
        rcases List.exists_cons_of_ne_nil (List.splitOn_ne_nil separator rest) with
          ⟨head, others, split⟩
        rw [split] at member inductionHypothesis
        rcases List.mem_cons.1 member with rfl | later
        · have different : separator ≠ c := fun same => separates (beq_iff_eq.2 same.symm)
          rw [List.mem_cons, not_or]
          exact ⟨different, inductionHypothesis List.mem_cons_self⟩
        · exact inductionHypothesis (List.mem_cons_of_mem head later)

/-- Puts `new` in the place of the leftmost occurrence of `old`, if there is
one. -/
def replaceFirst (old new : List Char) : List Char → List Char
  | [] => if old = [] then new else []
  | c :: rest =>
      if old.isPrefixOf (c :: rest) then
        new ++ (c :: rest).drop old.length
      else
        c :: replaceFirst old new rest

theorem replaceFirst_append (old new rest : List Char) :
    replaceFirst old new (old ++ rest) = new ++ rest := by
  cases old with
  | nil => cases rest <;> simp [replaceFirst]
  | cons c old =>
      have leads : (c :: old).isPrefixOf (c :: (old ++ rest)) = true :=
        List.isPrefixOf_iff_prefix.2 ⟨rest, rfl⟩
      simp only [List.cons_append, replaceFirst, leads, if_true, List.length_cons,
        List.drop_succ_cons,
        List.drop_left]

theorem replaceFirst_of_not_infix {old : List Char} (new : List Char) {text : List Char}
    (absent : ¬ old <:+: text) : replaceFirst old new text = text := by
  induction text with
  | nil =>
      have filled : old ≠ [] := fun empty => absent (empty ▸ List.nil_infix)
      simp only [replaceFirst, filled, if_false]
  | cons c rest ih =>
      have elsewhere : ¬ old.isPrefixOf (c :: rest) = true := fun leads =>
        absent (List.isPrefixOf_iff_prefix.1 leads).isInfix
      have later : ¬ old <:+: rest := fun found =>
        absent (found.trans (List.suffix_cons c rest).isInfix)
      simp only [replaceFirst, elsewhere, Bool.false_eq_true, if_false, ih later]

/-- The leftmost occurrence of `old` in a text stands between `before` and
`after`. -/
structure FirstAt (old text before after : List Char) : Prop where
  splits : text = before ++ old ++ after
  leftmost : ∀ otherBefore otherAfter, text = otherBefore ++ old ++ otherAfter →
    before.length ≤ otherBefore.length

theorem FirstAt.of_cons
    {c : Char} {old rest before after : List Char}
    (first : FirstAt old (c :: rest) (c :: before) after) :
    FirstAt old rest before after where
  splits := (List.cons.inj first.splits).2
  leftmost := by
    intro otherBefore otherAfter splits
    have longer := first.leftmost (c :: otherBefore) otherAfter (by rw [splits]; rfl)
    simpa only [List.length_cons, Nat.add_le_add_iff_right] using longer

theorem replaceFirst_of_firstAt
    {old text before after : List Char} (new : List Char)
    (first : FirstAt old text before after) :
    replaceFirst old new text = before ++ new ++ after := by
  induction before generalizing text with
  | nil =>
      rw [first.splits, List.nil_append, replaceFirst_append, List.nil_append]
  | cons c before inductionHypothesis =>
      have splits := first.splits
      simp only [List.cons_append] at splits
      subst splits
      have elsewhere : ¬ old.isPrefixOf (c :: (before ++ old ++ after)) = true := by
        intro leads
        rcases List.isPrefixOf_iff_prefix.1 leads with ⟨rest, atStart⟩
        have shorter := first.leftmost [] rest atStart.symm
        exact absurd shorter (by simp)
      rw [replaceFirst, if_neg elsewhere, inductionHypothesis first.of_cons]
      rfl

theorem exists_firstAt {old text : List Char} (occurs : old <:+: text) :
    ∃ before after, FirstAt old text before after := by
  induction text with
  | nil =>
      have empty := List.infix_nil.1 occurs
      refine ⟨[], [], by simp [empty], ?_⟩
      intro otherBefore otherAfter _
      exact Nat.zero_le _
  | cons c rest inductionHypothesis =>
      by_cases leads : old <+: c :: rest
      · rcases leads with ⟨after, atStart⟩
        refine ⟨[], after, atStart.symm, ?_⟩
        intro otherBefore otherAfter _
        exact Nat.zero_le _
      · have later := (List.infix_cons_iff.1 occurs).resolve_left leads
        rcases inductionHypothesis later with ⟨before, after, first⟩
        refine ⟨c :: before, after, by rw [first.splits]; rfl, ?_⟩
        intro otherBefore otherAfter splits
        cases otherBefore with
        | nil => exact absurd ⟨otherAfter, splits.symm⟩ leads
        | cons d otherBefore =>
            have inRest := (List.cons.inj splits).2
            have shorter := first.leftmost otherBefore otherAfter inRest
            simpa only [List.length_cons, Nat.add_le_add_iff_right] using shorter

/-- A text that begins with a character has no occurrence before the first place
of this character. -/
theorem firstAt_of_notMem
    {c : Char} {before : List Char} (absent : c ∉ before) (old after : List Char) :
    FirstAt (c :: old) (before ++ (c :: old) ++ after) before after where
  splits := rfl
  leftmost := by
    intro otherBefore otherAfter splits
    rw [List.append_assoc, List.append_assoc] at splits
    rcases List.append_eq_append_iff.1 splits with ⟨more, longer, _⟩ | ⟨more, shorter, found⟩
    · rw [longer, List.length_append]
      exact Nat.le_add_right _ _
    · cases more with
      | nil =>
          rw [List.append_nil] at shorter
          exact Nat.le_of_eq (congrArg List.length shorter)
      | cons d more =>
          have same := (List.cons.inj found).1
          rw [shorter, ← same] at absent
          exact absurd (List.mem_append_right _ List.mem_cons_self) absent

end TypedSql.Text
