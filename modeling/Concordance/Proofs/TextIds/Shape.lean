import Concordance.Proofs.TextIds.Grammar

/-!
# Texts of the shape of a spelling

The check of the shape takes a text for a spelling whose parts are numbers or two numbers around a
dash; it does not compare the two. So a text of this shape is in the grammar, and is read as some
ids, exactly when none of its parts descends.
-/

namespace Concordance
namespace TextIds

/-- Whether a part is two numbers around a dash, the second smaller than the first. -/
def IsDescending (part : List Char) : Prop :=
  ∃ before after,
    part = before ++ '-' :: after ∧
    isNumber before = true ∧
    isNumber after = true ∧
    Numeral.digitsValue after < Numeral.digitsValue before

/-- Whether no number in a part has more digits than a numeral may have. -/
def HasShortNumbers (part : List Char) : Prop :=
  ∀ number ∈ Text.splitAt '-' part, number.length ≤ Numeral.digitLimit

instance : DecidablePred HasShortNumbers := fun part =>
  inferInstanceAs (Decidable (∀ number ∈ Text.splitAt '-' part, number.length ≤ Numeral.digitLimit))

/-! ## Parts -/

/-- A part of the right shape is a number or two numbers around a dash. -/
theorem of_isRunShaped
    {part : List Char}
    (shaped : isRunShaped part = true) :
    isNumber part = true ∨
      ∃ before after,
        part = before ++ '-' :: after ∧ isNumber before = true ∧ isNumber after = true := by
  have joined := Text.joinWith_splitAt '-' part
  unfold isRunShaped at shaped
  split at shaped
  next number pieces =>
    rw [pieces, Text.joinWith] at joined
    exact Or.inl (joined ▸ shaped)
  next first last pieces =>
    rw [pieces, Text.joinWith, Text.joinWith] at joined
    rw [Bool.and_eq_true] at shaped
    exact Or.inr ⟨first, last, joined.symm, shaped⟩
  next => cases shaped

/-- A number has no blanks. -/
theorem not_isBlank_of_isNumber
    {text : List Char}
    (number : isNumber text = true) :
    ∀ character ∈ text, Text.isBlank character = false := by
  intro character member
  have decimal := ((isNumber_iff text).1 number).2 character member
  exact Text.isBlank_of_isDigitSign (Text.isDigitSign_of_isDecimal decimal)

/-- A part of the right shape has no blanks. -/
theorem not_isBlank_of_isRunShaped
    {part : List Char}
    (shaped : isRunShaped part = true) :
    ∀ character ∈ part, Text.isBlank character = false := by
  rcases of_isRunShaped shaped with number | ⟨before, after, rfl, isFirst, isLast⟩
  · exact not_isBlank_of_isNumber number
  · intro character member
    rw [List.mem_append, List.mem_cons] at member
    rcases member with inBefore | rfl | inAfter
    · exact not_isBlank_of_isNumber isFirst character inBefore
    · decide
    · exact not_isBlank_of_isNumber isLast character inAfter

theorem ne_nil_of_isRunShaped
    {part : List Char}
    (shaped : isRunShaped part = true) :
    part ≠ [] := by
  rintro rfl
  exact absurd shaped (by decide)

/-- There is nothing to trim around digits; where they are few, they have their value. -/
theorem isNumberOf_trim
    {text : List Char}
    (number : isNumber text = true)
    (short : text.length ≤ Numeral.digitLimit) :
    IsNumberOf (Text.trim text) (Numeral.digitsValue text) := by
  rw [Text.trim_eq_self (not_isBlank_of_isNumber number)]
  exact ⟨number, short, rfl⟩

/-- The numbers of a pair are short where those of the part are. -/
theorem HasShortNumbers.of_pair
    {before after : List Char}
    (short : HasShortNumbers (before ++ '-' :: after))
    (isFirst : isNumber before = true)
    (isLast : isNumber after = true) :
    before.length ≤ Numeral.digitLimit ∧ after.length ≤ Numeral.digitLimit := by
  unfold HasShortNumbers at short
  rw [Text.splitAt_append_cons, Text.splitAt_of_not_mem (dash_not_mem_of_isNumber isFirst),
    Text.splitAt_of_not_mem (dash_not_mem_of_isNumber isLast)] at short
  exact ⟨short before (by simp), short after (by simp)⟩

/-- A descending part is refused for its order. -/
theorem readRun_of_isDescending
    {part : List Char}
    (short : HasShortNumbers part)
    (descending : IsDescending part) :
    readRun part = .error (.descending (String.ofList part)) := by
  obtain ⟨before, after, rfl, isFirst, isLast, less⟩ := descending
  obtain ⟨shortFirst, shortLast⟩ := short.of_pair isFirst isLast
  rw [readRun_pair (isNumberOf_trim isFirst shortFirst) (isNumberOf_trim isLast shortLast)]
  exact if_pos (Int.ofNat_lt.2 less)

/-- A part of the right shape that does not descend stands for a block. -/
theorem exists_standsFor_of_isRunShaped
    {part : List Char}
    (shaped : isRunShaped part = true)
    (short : HasShortNumbers part)
    (ascending : ¬IsDescending part) :
    ∃ block, StandsFor part block := by
  rcases of_isRunShaped shaped with number | ⟨before, after, rfl, isFirst, isLast⟩
  · unfold HasShortNumbers at short
    rw [Text.splitAt_of_not_mem (dash_not_mem_of_isNumber number)] at short
    exact ⟨_, .number ⟨number, short part (by simp), rfl⟩⟩
  · obtain ⟨shortFirst, shortLast⟩ := short.of_pair isFirst isLast
    have ordered : Numeral.digitsValue before ≤ Numeral.digitsValue after := by
      rw [← Nat.not_lt]
      exact fun less => ascending ⟨before, after, rfl, isFirst, isLast, less⟩
    exact ⟨_, .pair (isNumberOf_trim isFirst shortFirst) (isNumberOf_trim isLast shortLast)
      (Int.ofNat_le.2 ordered)⟩

/-! ## Texts -/

/-- What is left out at the end of a text is blank. -/
theorem exists_margin_withoutFinalLineFeed (text : List Char) :
    ∃ margin,
      (∀ character ∈ margin, Text.isBlank character = true) ∧
      text = withoutFinalLineFeed text ++ margin := by
  unfold withoutFinalLineFeed
  split
  next rest reversed =>
    refine ⟨['\n'], List.forall_mem_singleton.2 (by decide), ?_⟩
    rw [← List.reverse_reverse text, reversed, List.reverse_cons]
  next => exact ⟨[], by simp, (List.append_nil text).symm⟩

section Shaped

variable {text : String} (shaped : isSpelling text = true)

include shaped

/-- The parts of a text of the right shape have the right shape themselves. -/
theorem trimmedParts_of_isSpelling :
    ∀ part ∈ trimmedParts text, isRunShaped part = true := by
  obtain ⟨margin, blank, parts⟩ := exists_margin_withoutFinalLineFeed text.toList
  unfold isSpelling at shaped
  rw [List.all_eq_true] at shaped
  have untrimmed :
      trimmedParts text =
        (Text.splitAt ',' (withoutFinalLineFeed text.toList)).map Text.trim := by
    rw [trimmedParts, parts, Text.map_trim_splitAt_append_right (by decide) blank, ← parts]
  rw [untrimmed, List.forall_mem_map]
  intro piece member
  rw [Text.trim_eq_self (not_isBlank_of_isRunShaped (shaped piece member))]
  exact shaped piece member

/-- A text of the right shape is not blank. -/
theorem not_forall_isBlank_of_isSpelling :
    ¬∀ character ∈ text.toList, Text.isBlank character = true := by
  intro blank
  have noComma : ',' ∉ text.toList := by
    intro member
    exact absurd (blank ',' member) (by decide)
  have whole : trimmedParts text = [Text.trim text.toList] := by
    rw [trimmedParts, Text.splitAt_of_not_mem noComma, List.map_singleton]
  have wholeShaped := trimmedParts_of_isSpelling shaped (Text.trim text.toList) (by simp [whole])
  exact ne_nil_of_isRunShaped wholeShaped ((Text.trim_eq_nil_iff _).2 blank)

end Shaped

/-- A text of the shape of a spelling is read as some ids exactly where none of its parts descends;
a descending part is what it is refused for. -/
theorem shaped_text_is_read_iff_ascending
    (text : String)
    (shaped : isSpelling text = true)
    (short : ∀ part ∈ trimmedParts text, HasShortNumbers part) :
    ((∃ ids, read text = .ok ids ∧ ids ≠ []) ↔
      ∀ part ∈ trimmedParts text, ¬IsDescending part) ∧
    ∀ cause, read text = .error cause ->
      ∃ part ∈ trimmedParts text,
        IsDescending part ∧ cause = .descending (String.ofList part) := by
  have written := not_forall_isBlank_of_isSpelling shaped
  have partsShaped := trimmedParts_of_isSpelling shaped
  refine ⟨⟨?_, ?_⟩, ?_⟩
  · rintro ⟨ids, reads, _⟩ part member descending
    obtain ⟨block, stands⟩ := (exists_read_eq_ok_iff written).1 ⟨ids, reads⟩ part member
    rw [← readRun_eq_ok_iff (trim_of_mem_trimmedParts member),
      readRun_of_isDescending (short part member) descending] at stands
    cases stands
  · intro ascends
    have grammar : InGrammar text := fun part member =>
      exists_standsFor_of_isRunShaped (partsShaped part member) (short part member)
        (ascends part member)
    obtain ⟨ids, reads⟩ := (exists_read_eq_ok_iff written).2 grammar
    obtain ⟨part, member⟩ := List.exists_mem_of_ne_nil _ (trimmedParts_ne_nil text)
    obtain ⟨block, stands⟩ := grammar part member
    have inside := ((mem_iff_of_read written reads).2 block.first).2
      ⟨part, member, block, stands, Int.le_refl _, stands.first_le_last⟩
    exact ⟨ids, reads, List.ne_nil_of_mem inside⟩
  · intro cause fails
    obtain ⟨part, member, partFails⟩ := exists_part_of_read_eq_error written fails
    by_cases descending : IsDescending part
    · refine ⟨part, member, descending, ?_⟩
      rw [readRun_of_isDescending (short part member) descending] at partFails
      exact (Except.error.inj partFails).symm
    · obtain ⟨block, stands⟩ :=
        exists_standsFor_of_isRunShaped (partsShaped part member) (short part member) descending
      rw [(readRun_eq_ok_iff (trim_of_mem_trimmedParts member)).2 stands] at partFails
      cases partFails

/-- A text with a line feed at its end is read. -/
theorem shaped_text_with_line_feed_is_read :
    isSpelling "1-3,7\n" = true ∧ ∃ ids, read "1-3,7\n" = .ok ids ∧ ids ≠ [] := by
  have shaped : isSpelling "1-3,7\n" = true := by decide
  have short : ∀ part ∈ trimmedParts "1-3,7\n", HasShortNumbers part := by decide
  refine ⟨shaped, (shaped_text_is_read_iff_ascending _ shaped short).1.2 ?_⟩
  intro part member descending
  have refuses := readRun_of_isDescending (short part member) descending
  have parts : trimmedParts "1-3,7\n" = ["1-3".toList, "7".toList] := by decide
  rw [parts, List.mem_pair] at member
  rcases member with rfl | rfl
  · exact absurd refuses (by decide)
  · exact absurd refuses (by decide)

/-- A descending pair has the shape of a spelling and is refused. -/
theorem descending_pair_is_refused :
    isSpelling "5-3" = true ∧
    (∀ part ∈ trimmedParts "5-3", HasShortNumbers part) ∧
    read "5-3" = .error (.descending "5-3") := by
  decide

end TextIds
end Concordance
