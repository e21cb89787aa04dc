import Concordance.Proofs.Text.Blank
import Concordance.Text.Pieces
import Mathlib.Algebra.GroupWithZero.Nat

/-!
# Pieces of joined texts

Texts that are joined with a separator that none of them holds are found again by cutting at
the separator. A separator that occurs on one side only is the first one of a text, or the last
one. Blanks around a text change none of its pieces when these are trimmed.
-/

namespace Concordance
namespace Text

variable {separator : Char}

/-- The pieces of a text are those of its list of characters. -/
theorem splitAt_eq_splitOn (separator : Char) (text : List Char) :
    splitAt separator text = text.splitOn separator := by
  induction text with
  | nil => rw [splitAt_nil, List.splitOn_nil]
  | cons character rest inductionHypothesis =>
      rw [List.splitOn_cons_eq_if_modifyHead, ← inductionHypothesis, splitAt]
      simp only [beq_iff_eq]
      split
      · rfl
      · have nonempty : splitAt separator rest ≠ [] := by
          rw [inductionHypothesis]
          exact List.splitOn_ne_nil separator rest
        cases pieces : splitAt separator rest with
        | nil => exact absurd pieces nonempty
        | cons piece others => rfl

/-- A piece of a text has no separator, and no characters but those of the text. -/
theorem of_mem_splitAt
    {text piece : List Char}
    (member : piece ∈ splitAt separator text) :
    separator ∉ piece ∧ piece ⊆ text := by
  induction text generalizing piece with
  | nil =>
      obtain rfl := List.mem_singleton.1 member
      simp
  | cons character rest inductionHypothesis =>
      rw [splitAt] at member
      split at member
      · rcases List.mem_cons.1 member with rfl | inRest
        · simp
        · obtain ⟨clean, inside⟩ := inductionHypothesis inRest
          exact ⟨clean, List.Subset.trans inside (List.subset_cons_self character rest)⟩
      next different =>
        split at member
        · obtain rfl := List.mem_singleton.1 member
          simpa using Ne.symm different
        next first others pieces =>
          rw [pieces] at inductionHypothesis
          rcases List.mem_cons.1 member with rfl | inOthers
          · obtain ⟨clean, inside⟩ := inductionHypothesis List.mem_cons_self
            refine ⟨?_, List.cons_subset_cons character inside⟩
            rw [List.mem_cons, not_or]
            exact ⟨Ne.symm different, clean⟩
          · obtain ⟨clean, inside⟩ := inductionHypothesis (List.mem_cons_of_mem first inOthers)
            exact ⟨clean, List.Subset.trans inside (List.subset_cons_self character rest)⟩

/-- The pieces of a text have its length when each has a separator behind it but the last. -/
theorem sum_length_splitAt (separator : Char) (text : List Char) :
    ((splitAt separator text).map fun piece => piece.length + 1).sum = text.length + 1 := by
  induction text with
  | nil => rfl
  | cons character rest inductionHypothesis =>
      rw [splitAt]
      split
      · rw [List.map_cons, List.sum_cons, inductionHypothesis, List.length_nil, List.length_cons]
        omega
      · cases pieces : splitAt separator rest with
        | nil =>
            rw [pieces] at inductionHypothesis
            cases inductionHypothesis
        | cons piece others =>
            rw [pieces, List.map_cons, List.sum_cons] at inductionHypothesis
            rw [List.map_cons, List.sum_cons, List.length_cons, List.length_cons]
            omega

theorem toList_intercalate_singleton (separator : Char) (pieces : List String) :
    ((String.singleton separator).intercalate pieces).toList =
      [separator].intercalate (pieces.map String.toList) := by
  rw [String.toList_intercalate, String.toList_singleton]

/-- Texts without the separator are the pieces of what is joined from them. -/
theorem splitAt_intercalate
    {pieces : List String}
    (nonempty : pieces ≠ [])
    (clean : ∀ piece ∈ pieces, separator ∉ piece.toList) :
    splitAt separator ((String.singleton separator).intercalate pieces).toList =
      pieces.map String.toList := by
  rw [splitAt_eq_splitOn, toList_intercalate_singleton]
  apply List.splitOn_intercalate
  · exact List.forall_mem_map.2 clean
  · rwa [ne_eq, List.map_eq_nil_iff]

/-- The characters of joined texts are those of the texts, and the separator where there are
two of them. -/
theorem mem_intercalate_iff (pieces : List String) (character : Char) :
    character ∈ ((String.singleton separator).intercalate pieces).toList ↔
      (∃ piece ∈ pieces, character ∈ piece.toList) ∨
        character = separator ∧ 1 < pieces.length := by
  induction pieces with
  | nil => simp
  | cons piece rest inductionHypothesis =>
      cases rest with
      | nil => simp
      | cons next others =>
          have parts :
              character ∈ ((String.singleton separator).intercalate
                  (piece :: next :: others)).toList ↔
                character ∈ piece.toList ∨ character = separator ∨
                  character ∈ ((String.singleton separator).intercalate
                    (next :: others)).toList := by
            simp [String.intercalate_cons_cons]
          rw [parts, inductionHypothesis]
          simp only [List.mem_cons, exists_eq_or_imp, List.length_cons]
          grind

/-- The last separator of a text is the one that none follows. -/
theorem cutLast_append
    (before : List Char)
    {after : List Char}
    (clean : separator ∉ after) :
    cutLast separator (before ++ separator :: after) = some (before, after) := by
  have none_after : cutLast separator after = none := by
    clear before
    induction after with
    | nil => rfl
    | cons character rest inductionHypothesis =>
        rw [List.mem_cons, not_or] at clean
        rw [cutLast, inductionHypothesis clean.2]
        exact if_neg (Ne.symm clean.1)
  induction before with
  | nil => simp [cutLast, none_after]
  | cons character rest inductionHypothesis =>
      rw [List.cons_append, cutLast, inductionHypothesis]

/-- A text that is cut at its last separator is made of what stands before and behind it. -/
theorem eq_append_of_cutLast
    {text before after : List Char}
    (cut : cutLast separator text = some (before, after)) :
    text = before ++ separator :: after := by
  induction text generalizing before with
  | nil => cases cut
  | cons character rest inductionHypothesis =>
      rw [cutLast] at cut
      split at cut
      next front back inRest =>
        cases cut
        rw [inductionHypothesis inRest, List.cons_append]
      next =>
        split at cut
        next same =>
          cases cut
          rw [same, List.nil_append]
        next => cases cut

/-- A text without the separator is not cut. -/
theorem cutFirst_of_not_mem
    {text : List Char}
    (clean : separator ∉ text) :
    cutFirst separator text = none := by
  induction text with
  | nil => rfl
  | cons character rest inductionHypothesis =>
      rw [List.mem_cons, not_or] at clean
      rw [cutFirst, if_neg (Ne.symm clean.1), inductionHypothesis clean.2, Option.map_none]

/-- The first separator of a text is the one that none precedes. -/
theorem cutFirst_append
    {before : List Char}
    (after : List Char)
    (clean : separator ∉ before) :
    cutFirst separator (before ++ separator :: after) = some (before, after) := by
  induction before with
  | nil => simp [cutFirst]
  | cons character rest inductionHypothesis =>
      rw [List.mem_cons, not_or] at clean
      rw [List.cons_append, cutFirst, if_neg (Ne.symm clean.1), inductionHypothesis clean.2,
        Option.map_some]

/-- A text that is cut at its first separator is made of what stands before and behind it. -/
theorem eq_append_of_cutFirst
    {text before after : List Char}
    (cut : cutFirst separator text = some (before, after)) :
    text = before ++ separator :: after := by
  induction text generalizing before with
  | nil => cases cut
  | cons character rest inductionHypothesis =>
      rw [cutFirst] at cut
      split at cut
      next same =>
        cases cut
        rw [same, List.nil_append]
      next =>
        obtain ⟨⟨front, back⟩, inRest, pair⟩ := Option.map_eq_some_iff.1 cut
        cases pair
        rw [inductionHypothesis inRest, List.cons_append]

/-! ## Pieces without their margins -/

theorem splitAt_of_not_mem
    {text : List Char}
    (clean : separator ∉ text) :
    splitAt separator text = [text] := by
  rw [splitAt_eq_splitOn, List.splitOn_eq_singleton clean]

theorem splitAt_append_cons (before after : List Char) :
    splitAt separator (before ++ separator :: after) =
      splitAt separator before ++ splitAt separator after := by
  simp only [splitAt_eq_splitOn, List.splitOn_append_cons_self]

section Trimmed

variable {margin : List Char}

/-- Blanks in front of a text change none of its pieces when these are trimmed. -/
theorem map_trim_splitAt_append_left
    (letter : isBlank separator = false)
    (blank : ∀ character ∈ margin, isBlank character = true)
    (text : List Char) :
    (splitAt separator (margin ++ text)).map trim = (splitAt separator text).map trim := by
  have clean : separator ∉ margin := fun member => by simp [blank separator member] at letter
  by_cases cut : separator ∈ text
  · obtain ⟨first, rest, rfl, firstClean⟩ := List.eq_append_cons_of_mem cut
    rw [← List.append_assoc, splitAt_append_cons, splitAt_append_cons,
      splitAt_of_not_mem firstClean, splitAt_of_not_mem (by simp [clean, firstClean])]
    simp [trim_append_left blank]
  · rw [splitAt_of_not_mem cut, splitAt_of_not_mem (by simp [clean, cut])]
    simp [trim_append_left blank]

/-- Blanks behind a text change none of its pieces when these are trimmed. -/
theorem map_trim_splitAt_append_right
    (letter : isBlank separator = false)
    (blank : ∀ character ∈ margin, isBlank character = true)
    (text : List Char) :
    (splitAt separator (text ++ margin)).map trim = (splitAt separator text).map trim := by
  have clean : separator ∉ margin := fun member => by simp [blank separator member] at letter
  by_cases cut : separator ∈ text
  · obtain ⟨last, earlier, parts, lastClean⟩ :=
      List.eq_append_cons_of_mem (List.mem_reverse.2 cut)
    obtain rfl : text = earlier.reverse ++ separator :: last.reverse := by
      rw [← List.reverse_reverse text, parts]
      simp
    have whole : splitAt separator last.reverse = [last.reverse] :=
      splitAt_of_not_mem (by simpa using lastClean)
    have wholeMargin : splitAt separator (last.reverse ++ margin) = [last.reverse ++ margin] :=
      splitAt_of_not_mem (by simp [lastClean, clean])
    rw [List.append_assoc, List.cons_append, splitAt_append_cons, splitAt_append_cons, whole,
      wholeMargin]
    simp [trim_append_right blank]
  · rw [splitAt_of_not_mem cut, splitAt_of_not_mem (by simp [clean, cut])]
    simp [trim_append_right blank]

end Trimmed

/-- Trimming a text changes none of its pieces when these are trimmed. -/
theorem map_trim_splitAt_trim
    (letter : isBlank separator = false)
    (text : List Char) :
    (splitAt separator (trim text)).map trim = (splitAt separator text).map trim := by
  obtain ⟨left, right, leftBlank, rightBlank, parts⟩ := exists_margins text
  calc
    (splitAt separator (trim text)).map trim
    _ = (splitAt separator (left ++ trim text ++ right)).map trim := by
      rw [map_trim_splitAt_append_right letter rightBlank,
        map_trim_splitAt_append_left letter leftBlank]
    _ = (splitAt separator text).map trim := by rw [← parts]

end Text
end Concordance
