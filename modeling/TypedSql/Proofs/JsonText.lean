import TypedSql.Json.Frame

/-!
# Reading printed JSON

The compact printed form of a value without numbers is read back as the draft of
this value, and nothing of the text is left over. Numbers are left out because a
draft keeps of them only whether they are finite.
-/

namespace TypedSql

/-! ## Quoted texts -/

namespace QuotedText

/-- The part writes the character, whatever parts follow. -/
def TextPart.Writes (part : TextPart) (c : Char) : Prop :=
  ∀ parts, join (part :: parts) = (join parts).map (c :: ·)

theorem writes_char (c : Char) : (TextPart.char c).Writes c :=
  fun _ => rfl

/-- A unit below the surrogates writes a character by itself. -/
theorem writes_unit {c : Char} (low : c.toNat < 0xD800) : (TextPart.unit c.toNat).Writes c := by
  have notHigh : ¬ (0xD800 ≤ c.toNat ∧ c.toNat < 0xDC00) := by omega
  have notLow : ¬ (0xDC00 ≤ c.toNat ∧ c.toNat < 0xE000) := by omega
  have notSurrogate : ¬ (0xD800 ≤ c.toNat ∧ c.toNat < 0xE000) := by omega
  intro parts
  cases parts with
  | nil => simp only [join, notSurrogate, if_false, Char.ofNat_toNat]
  | cons next rest =>
      cases next with
      | char d => simp only [join, notSurrogate, if_false, Char.ofNat_toNat]
      | unit code => rw [join, if_neg notHigh, if_neg notLow, Char.ofNat_toNat]

/-- Reading a text whose first part is this one. -/
def afterPart (part : TextPart) (read : Option (List TextPart × List Char)) :
    Option (List TextPart × List Char) :=
  read.map fun (parts, rest) => (part :: parts, rest)

theorem scan_plain
    {c : Char} (notQuote : c ≠ '"') (notBackslash : c ≠ '\\') (printable : ¬ c.toNat < 32)
    (rest : List Char) :
    scan (c :: rest) = afterPart (.char c) (scan rest) := by
  have allowed : ¬ (c.toNat < 32 ∨ c = '\\') := not_or.2 ⟨printable, notBackslash⟩
  rw [scan, if_neg allowed]
  · cases scan rest <;> rfl
  · exact notQuote
  · exact fun _ _ _ _ _ backslash => absurd backslash notBackslash
  · exact fun _ _ backslash => absurd backslash notBackslash

theorem scan_escape
    {letter c : Char} (notUnit : letter ≠ 'u') (known : escaped? letter = some c)
    (rest : List Char) :
    scan ('\\' :: letter :: rest) = afterPart (.char c) (scan rest) := by
  rw [scan, known]
  · cases scan rest <;> rfl
  · exact fun _ _ _ _ _ unit => absurd unit notUnit

theorem hexUnit?_digitChar :
    ∀ code < 32, hexUnit? '0' '0' (Nat.digitChar (code / 16)) (Nat.digitChar (code % 16)) =
      some code := by
  decide

theorem scan_unit
    {a b c d : Char} {code : Nat} (known : hexUnit? a b c d = some code) (rest : List Char) :
    scan ('\\' :: 'u' :: a :: b :: c :: d :: rest) = afterPart (.unit code) (scan rest) := by
  rw [scan, known]
  cases scan rest <;> rfl

/-- The characters that are printed as a backslash and a letter, with the letter. -/
def letterEscapes : List (Char × Char) :=
  [('"', '"'), ('\\', '\\'), ('\n', 'n'), ('\r', 'r'), ('\t', 't'), ('\x08', 'b'), ('\x0c', 'f')]

theorem renderChar_of_letterEscape :
    ∀ pair ∈ letterEscapes, pair.2 ≠ 'u' ∧ escaped? pair.2 = some pair.1 ∧
      Json.renderChar pair.1 = ['\\', pair.2] := by
  decide

theorem renderChar_of_no_letter {c : Char} (absent : c ∉ letterEscapes.map Prod.fst) :
    c ≠ '"' ∧ c ≠ '\\' ∧
      Json.renderChar c =
        if c.toNat < 32 then
          ['\\', 'u', '0', '0', Nat.digitChar (c.toNat / 16), Nat.digitChar (c.toNat % 16)]
        else
          [c] := by
  simp only [letterEscapes, List.map_cons, List.map_nil, List.mem_cons, List.not_mem_nil,
    or_false, not_or] at absent
  obtain ⟨quote, backslash, newline, carriageReturn, tab, backspace, formFeed⟩ := absent
  refine ⟨quote, backslash, ?_⟩
  simp only [Json.renderChar, quote, backslash, newline, carriageReturn, tab, backspace,
    formFeed, if_false]

/-- A printed character is read as one part that writes it. -/
theorem exists_part_renderChar (c : Char) :
    ∃ part : TextPart, part.Writes c ∧
      ∀ rest, scan (Json.renderChar c ++ rest) = afterPart part (scan rest) := by
  by_cases listed : c ∈ letterEscapes.map Prod.fst
  · obtain ⟨pair, member, rfl⟩ := List.mem_map.1 listed
    obtain ⟨notUnit, known, printed⟩ := renderChar_of_letterEscape pair member
    rw [printed]
    exact ⟨.char pair.1, writes_char pair.1, scan_escape notUnit known⟩
  · obtain ⟨notQuote, notBackslash, printed⟩ := renderChar_of_no_letter listed
    rw [printed]
    by_cases control : c.toNat < 32
    · rw [if_pos control]
      exact ⟨.unit c.toNat, writes_unit (by omega),
        scan_unit (hexUnit?_digitChar c.toNat control)⟩
    · rw [if_neg control]
      exact ⟨.char c, writes_char c, scan_plain notQuote notBackslash control⟩

theorem exists_parts_renderChar (cs : List Char) :
    ∃ parts, join parts = some cs ∧
      ∀ rest, scan (cs.flatMap Json.renderChar ++ '"' :: rest) = some (parts, rest) := by
  induction cs with
  | nil => exact ⟨[], rfl, fun _ => by rw [List.flatMap_nil, List.nil_append, scan]⟩
  | cons c cs inductionHypothesis =>
      obtain ⟨part, writes, readPart⟩ := exists_part_renderChar c
      obtain ⟨parts, joined, readParts⟩ := inductionHypothesis
      refine ⟨part :: parts, ?_, ?_⟩
      · rw [writes, joined, Option.map_some]
      · intro rest
        rw [List.flatMap_cons, List.append_assoc, readPart, readParts]
        rfl

theorem read_flatMap_renderChar (s : String) (rest : List Char) :
    read (s.toList.flatMap Json.renderChar ++ '"' :: rest) = some (some s, rest) := by
  obtain ⟨parts, joined, scanned⟩ := exists_parts_renderChar s.toList
  simp only [read, scanned, joined, Option.map_some, String.ofList_toList]

end QuotedText

/-! ## Tokens of printed values -/

namespace JsonToken

theorem tokens_cons
    {c : Char} {rest after : List Char} {token : JsonToken}
    (solid : isGap c = false) (known : read c rest = some (token, after)) :
    tokens (c :: rest) = token :: tokens after := by
  rw [tokens, if_neg (by simp [solid])]
  generalize read c rest = found at known
  subst known
  rfl

theorem tokens_renderText (s : String) (rest : List Char) :
    tokens (Json.renderText s ++ rest) = .text (some s) :: tokens rest := by
  have readQuoted : read '"' (s.toList.flatMap Json.renderChar ++ '"' :: rest) =
      some (.text (some s), rest) := by
    simp only [read, QuotedText.read_flatMap_renderChar, Option.map_some]
  have spread : Json.renderText s ++ rest =
      '"' :: (s.toList.flatMap Json.renderChar ++ '"' :: rest) := by
    simp only [Json.renderText, List.cons_append, List.append_assoc, List.nil_append]
  rw [spread, tokens_cons rfl readQuoted]

end JsonToken

/-! ## Drafts of printed values -/

namespace Json

mutual

/-- Whether there are no numbers in the value. -/
def numberless : Json → Bool
  | number _ => false
  | array items => numberlessItems items
  | object members => numberlessMembers members
  | _ => true

def numberlessItems : List Json → Bool
  | [] => true
  | item :: items => numberless item && numberlessItems items

def numberlessMembers : List (String × Json) → Bool
  | [] => true
  | (_, value) :: members => numberless value && numberlessMembers members

end

end Json

namespace Draft.Stage

theorem run_cons
    {stage following : Stage} {frames remaining : List Frame} {token : JsonToken}
    (unfinished : stage.finished? frames = none)
    (step : stage.next frames token = some (following, remaining)) (rest : List JsonToken) :
    stage.run frames (token :: rest) = following.run remaining rest := by
  rw [run, unfinished]
  simp only [step]

/-- The first item of an array is read like any value within this array. -/
theorem run_firstItem
    {frames : List Frame} {token : JsonToken} (opens : token ≠ .closeArray)
    (rest : List JsonToken) :
    run .firstItem frames (token :: rest) = run .value (.array [] :: frames) (token :: rest) := by
  have sameStep : next frames token .firstItem = next (.array [] :: frames) token .value := by
    cases token <;> first | rfl | exact absurd rfl opens
  have sameCut : cut frames .firstItem = cut (.array [] :: frames) .value := rfl
  rw [run, run]
  simp only [finished?, sameStep, sameCut]

end Draft.Stage

namespace Json

open Draft JsonToken

/-- A printed value does not begin with the end of an array. -/
theorem exists_cons_tokens_renderChars
    {content : Json} (numberless : content.numberless = true) (rest : List Char) :
    ∃ token after, token ≠ .closeArray ∧
      tokens (renderChars content ++ rest) = token :: after := by
  cases content with
  | null => exact ⟨.null, _, by decide, tokens_cons rfl rfl⟩
  | bool flag =>
      cases flag with
      | true => exact ⟨.bool true, _, by decide, tokens_cons rfl rfl⟩
      | false => exact ⟨.bool false, _, by decide, tokens_cons rfl rfl⟩
  | number n => exact nomatch numberless
  | text s => exact ⟨.text (some s), _, nofun, tokens_renderText s rest⟩
  | array items =>
      cases items with
      | nil => exact ⟨.openArray, _, by decide, tokens_cons rfl rfl⟩
      | cons item items => exact ⟨.openArray, _, by decide, tokens_cons rfl rfl⟩
  | object members =>
      cases members with
      | nil => exact ⟨.openObject, _, by decide, tokens_cons rfl rfl⟩
      | cons member members => exact ⟨.openObject, _, by decide, tokens_cons rfl rfl⟩

-- One case per way to print a value. The text behind the value and the open frames are
-- arbitrary, as the parts of an array or object are read with more text and frames around.
mutual

theorem run_renderChars :
    ∀ (content : Json) (frames : List Frame) (rest : List Char), content.numberless = true →
      Stage.run .value frames (tokens (renderChars content ++ rest)) =
        Stage.run (.done content.draft) frames (tokens rest)
  | .null, frames, rest, _ => by
      have read : tokens (renderChars .null ++ rest) = .null :: tokens rest := tokens_cons rfl rfl
      rw [read, Stage.run_cons rfl rfl, draft]
  | .bool true, frames, rest, _ => by
      have read : tokens (renderChars (.bool true) ++ rest) = .bool true :: tokens rest :=
        tokens_cons rfl rfl
      rw [read, Stage.run_cons rfl rfl, draft]
  | .bool false, frames, rest, _ => by
      have read : tokens (renderChars (.bool false) ++ rest) = .bool false :: tokens rest :=
        tokens_cons rfl rfl
      rw [read, Stage.run_cons rfl rfl, draft]
  | .number n, frames, rest, numberless => nomatch numberless
  | .text s, frames, rest, _ => by
      rw [renderChars, draft, tokens_renderText, Stage.run_cons rfl rfl]
  | .array [], frames, rest, _ => by
      have read : tokens (renderChars (.array []) ++ rest) =
          .openArray :: .closeArray :: tokens rest :=
        (tokens_cons rfl rfl).trans (congrArg _ (tokens_cons rfl rfl))
      rw [read, Stage.run_cons rfl rfl, Stage.run_cons rfl rfl, draft, draftItems]
  | .array (item :: items), frames, rest, numberless => by
      rw [Json.numberless, numberlessItems, Bool.and_eq_true] at numberless
      have spread : renderChars (.array (item :: items)) ++ rest =
          '[' :: (renderChars item ++ (renderItems items ++ rest)) := by
        simp only [renderChars, List.cons_append, List.append_assoc]
      have first := run_renderChars item (.array [] :: frames) (renderItems items ++ rest)
        numberless.1
      obtain ⟨token, after, opens, head⟩ :=
        exists_cons_tokens_renderChars numberless.1 (renderItems items ++ rest)
      rw [head] at first
      rw [spread, tokens_cons rfl rfl, Stage.run_cons rfl rfl, head, Stage.run_firstItem opens,
        first, run_renderItems items [] _ frames rest numberless.2, draft, draftItems]
      rfl
  | .object [], frames, rest, _ => by
      have read : tokens (renderChars (.object []) ++ rest) =
          .openObject :: .closeObject :: tokens rest :=
        (tokens_cons rfl rfl).trans (congrArg _ (tokens_cons rfl rfl))
      rw [read, Stage.run_cons rfl rfl, Stage.run_cons rfl rfl, draft, draftMembers]
  | .object ((key, content) :: members), frames, rest, numberless => by
      rw [Json.numberless, numberlessMembers, Bool.and_eq_true] at numberless
      have spread : renderChars (.object ((key, content) :: members)) ++ rest =
          '{' :: (renderText key ++
            (':' :: (renderChars content ++ (renderMembers members ++ rest)))) := by
        simp only [renderChars, List.cons_append, List.append_assoc]
      rw [spread, tokens_cons rfl rfl, Stage.run_cons rfl rfl, tokens_renderText,
        Stage.run_cons rfl rfl, tokens_cons rfl rfl, Stage.run_cons rfl rfl,
        run_renderChars content _ _ numberless.1,
        run_renderMembers members [] (some key) _ frames rest numberless.2, draft, draftMembers]
      rfl

theorem run_renderItems :
    ∀ (items : List Json) (before : List Draft) (last : Draft) (frames : List Frame)
      (rest : List Char), numberlessItems items = true →
      Stage.run (.done last) (.array before :: frames) (tokens (renderItems items ++ rest)) =
        Stage.run (.done (.array (before.reverse ++ last :: draftItems items))) frames
          (tokens rest)
  | [], before, last, frames, rest, _ => by
      have read : tokens (renderItems [] ++ rest) = .closeArray :: tokens rest :=
        tokens_cons rfl rfl
      rw [read, Stage.run_cons rfl rfl, draftItems]
      rfl
  | item :: items, before, last, frames, rest, numberless => by
      rw [numberlessItems, Bool.and_eq_true] at numberless
      have spread : renderItems (item :: items) ++ rest =
          ',' :: (renderChars item ++ (renderItems items ++ rest)) := by
        simp only [renderItems, List.cons_append, List.append_assoc]
      rw [spread, tokens_cons rfl rfl, Stage.run_cons rfl rfl,
        run_renderChars item _ _ numberless.1,
        run_renderItems items (last :: before) _ frames rest numberless.2, draftItems,
        List.reverse_cons, List.append_assoc]
      rfl

theorem run_renderMembers :
    ∀ (members : List (String × Json)) (before : List (Option String × Draft))
      (key : Option String) (last : Draft) (frames : List Frame) (rest : List Char),
      numberlessMembers members = true →
      Stage.run (.done last) (.object before key :: frames)
          (tokens (renderMembers members ++ rest)) =
        Stage.run (.done (.object (before.reverse ++ (key, last) :: draftMembers members)))
          frames (tokens rest)
  | [], before, key, last, frames, rest, _ => by
      have read : tokens (renderMembers [] ++ rest) = .closeObject :: tokens rest :=
        tokens_cons rfl rfl
      rw [read, Stage.run_cons rfl rfl, draftMembers]
      rfl
  | (nextKey, content) :: members, before, key, last, frames, rest, numberless => by
      rw [numberlessMembers, Bool.and_eq_true] at numberless
      have spread : renderMembers ((nextKey, content) :: members) ++ rest =
          ',' :: (renderText nextKey ++
            (':' :: (renderChars content ++ (renderMembers members ++ rest)))) := by
        simp only [renderMembers, List.cons_append, List.append_assoc]
      rw [spread, tokens_cons rfl rfl, Stage.run_cons rfl rfl, tokens_renderText,
        Stage.run_cons rfl rfl, tokens_cons rfl rfl, Stage.run_cons rfl rfl,
        run_renderChars content _ _ numberless.1,
        run_renderMembers members ((key, last) :: before) (some nextKey) _ frames rest
          numberless.2, draftMembers, List.reverse_cons, List.append_assoc]
      rfl

end

end Json

/-- The printed form of a value without numbers is read to its end as this value. -/
theorem Draft.ofText_render {content : Json} (numberless : content.numberless = true) :
    Draft.ofText content.render = (content.draft, true) := by
  have read := Json.run_renderChars content [] [] numberless
  rw [List.append_nil, JsonToken.tokens, Stage.run, Stage.finished?] at read
  simp only [ofText, ofTokens, Json.render, String.toList_ofList, read]
  rfl

end TypedSql
