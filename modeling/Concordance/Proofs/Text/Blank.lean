import Concordance.Text.Blank
import Mathlib.Data.List.TakeWhile

/-!
# Trimming and collapsing

A text is trimmed away, and collapsed to blanks, exactly when it is blank. A text without
blanks is left alone by trimming. Any other text is what trimming leaves of it between two margins
of blanks, and margins change nothing of what is left.
-/

namespace Concordance
namespace Text

/-- Collapsing a text keeps whether all of it is blank. -/
theorem forall_mem_collapse_iff (text : List Char) :
    (∀ character ∈ collapse text, isBlank character = true) ↔
      ∀ character ∈ text, isBlank character = true := by
  induction text with
  | nil => rfl
  | cons character rest inductionHypothesis =>
      cases blank : isBlank character with
      | false => simp [collapse, blank]
      | true =>
          cases rest with
          | nil => simp [collapse, blank]
          | cons next others =>
              cases nextBlank : isBlank next with
              | false => simp [collapse, blank, nextBlank]
              | true =>
                  rw [List.forall_mem_cons, ← inductionHypothesis]
                  simp [collapse, blank, nextBlank]

/-- Trimming leaves nothing of a text exactly when all of it is blank. -/
theorem trim_eq_nil_iff (text : List Char) :
    trim text = [] ↔ ∀ character ∈ text, isBlank character = true := by
  unfold trim trimRight trimLeft
  rw [List.reverse_eq_nil_iff, List.dropWhile_eq_nil_iff]
  constructor
  · intro blankRest character member
    rw [← List.takeWhile_append_dropWhile (p := isBlank) (l := text), List.mem_append] at member
    rcases member with dropped | kept
    · exact List.mem_takeWhile_imp dropped
    · exact blankRest character (List.mem_reverse.2 kept)
  · intro blank character member
    exact blank character ((List.dropWhile_sublist _).mem (List.mem_reverse.1 member))

/-- Dropping from both ends leaves a text alone that has nothing to drop. -/
theorem dropEnds_eq_self
    {drops : Char -> Bool}
    {text : List Char}
    (clean : ∀ character ∈ text, drops character = false) :
    ((text.dropWhile drops).reverse.dropWhile drops).reverse = text := by
  have keeps (kept : List Char) (keptClean : ∀ character ∈ kept, drops character = false) :
      kept.dropWhile drops = kept := by
    rw [List.dropWhile_eq_self_iff]
    intro positive
    simpa using keptClean _ (List.getElem_mem positive)
  rw [keeps text clean, keeps, List.reverse_reverse]
  intro character member
  exact clean character (List.mem_reverse.1 member)

theorem trim_eq_self
    {text : List Char}
    (clean : ∀ character ∈ text, isBlank character = false) :
    trim text = text := by
  unfold trim trimRight trimLeft
  exact dropEnds_eq_self clean

/-- A text is what trimming leaves of it between two margins of blanks. -/
theorem exists_margins (text : List Char) :
    ∃ left right,
      (∀ character ∈ left, isBlank character = true) ∧
      (∀ character ∈ right, isBlank character = true) ∧
      text = left ++ trim text ++ right := by
  refine ⟨text.takeWhile isBlank, ((trimLeft text).reverse.takeWhile isBlank).reverse,
    fun _ => List.mem_takeWhile_imp, ?_, ?_⟩
  · intro character member
    exact List.mem_takeWhile_imp (List.mem_reverse.1 member)
  · calc
      text
      _ = text.takeWhile isBlank ++ trimLeft text := List.takeWhile_append_dropWhile.symm
      _ = text.takeWhile isBlank ++
          ((trimLeft text).reverse.takeWhile isBlank ++
            (trimLeft text).reverse.dropWhile isBlank).reverse := by
        rw [List.takeWhile_append_dropWhile, List.reverse_reverse]
      _ = text.takeWhile isBlank ++ trim text ++
          ((trimLeft text).reverse.takeWhile isBlank).reverse := by
        rw [List.reverse_append, List.append_assoc]
        rfl

section Margins

variable {margin : List Char} (blank : ∀ character ∈ margin, isBlank character = true)

include blank

theorem trim_append_left (text : List Char) : trim (margin ++ text) = trim text := by
  unfold trim trimLeft
  rw [List.dropWhile_append_of_pos blank]

/-- Blanks behind a text are trimmed away. -/
theorem trim_append_right (text : List Char) : trim (text ++ margin) = trim text := by
  have dropped (kept : List Char) : trimRight (kept ++ margin) = trimRight kept := by
    unfold trimRight
    rw [List.reverse_append,
      List.dropWhile_append_of_pos fun _ member => blank _ (List.mem_reverse.1 member)]
  unfold trim trimLeft
  rw [List.dropWhile_append]
  split
  next empty =>
    rw [List.isEmpty_iff.1 empty, List.dropWhile_eq_nil_iff.2 blank]
  next => exact dropped _

end Margins

@[simp] theorem trim_trim (text : List Char) : trim (trim text) = trim text := by
  obtain ⟨left, right, leftBlank, rightBlank, parts⟩ := exists_margins text
  calc
    trim (trim text)
    _ = trim (left ++ trim text ++ right) := by
      rw [trim_append_right rightBlank, trim_append_left leftBlank]
    _ = trim text := by rw [← parts]

theorem length_trim_le (text : List Char) : (trim text).length ≤ text.length := by
  obtain ⟨left, right, _, _, parts⟩ := exists_margins text
  have lengths := congrArg List.length parts
  rw [List.length_append, List.length_append] at lengths
  omega

/-- Trimming keeps what is not blank. -/
theorem mem_trim_of_not_isBlank
    {text : List Char}
    {character : Char}
    (letter : isBlank character = false)
    (member : character ∈ text) :
    character ∈ trim text := by
  obtain ⟨left, right, leftBlank, rightBlank, parts⟩ := exists_margins text
  rw [parts, List.mem_append, List.mem_append] at member
  rcases member with (inLeft | inside) | inRight
  · simp [leftBlank character inLeft] at letter
  · exact inside
  · simp [rightBlank character inRight] at letter

end Text
end Concordance
