import Concordance.Root
import Mathlib.Data.List.Forall2

/-!
# Roots that have the same pattern

A typed root may hold separators and placeholders as letters of its own. So the letters of a root
are not found again by cutting its pattern at the separators, but by their places: the letters
stand at the even places of the pattern, and every odd place holds the separator that ends a
letter.

The main statement says that a pattern tells a root up to its blanks and its weak letters: two
roots have the same pattern exactly when they agree letter by letter, where the weak letters and
the placeholder are not told apart.
-/

namespace Concordance
namespace Root

/-- A letter that the placeholder stands for: a weak letter or the placeholder itself. -/
def IsMasked (letter : Char) : Prop :=
  letter ∈ weakLetters ∨ letter = placeholder

instance : DecidablePred IsMasked := fun letter =>
  inferInstanceAs (Decidable (letter ∈ weakLetters ∨ letter = placeholder))

/-- Two letters that a pattern does not tell apart. -/
def Alike (letter other : Char) : Prop :=
  letter = other ∨ IsMasked letter ∧ IsMasked other

instance : DecidableRel Alike := fun letter other =>
  inferInstanceAs (Decidable (letter = other ∨ IsMasked letter ∧ IsMasked other))

/-! ## Letters -/

theorem mask_eq_ite (letter : Char) :
    mask letter = if letter ∈ weakLetters then placeholder else letter := by
  simp [mask]

/-- The placeholder is put for weak letters and kept for itself. -/
theorem mask_eq_placeholder_iff (letter : Char) :
    mask letter = placeholder ↔ IsMasked letter := by
  rw [mask_eq_ite, IsMasked]
  split
  next weak => simp [weak]
  next strong => simp [strong]

theorem mask_eq_self
    {letter : Char}
    (unmasked : ¬IsMasked letter) :
    mask letter = letter := by
  rw [mask_eq_ite, if_neg fun weak => unmasked (.inl weak)]

/-- The mask makes letters equal exactly when they are alike. -/
theorem mask_eq_mask_iff (letter other : Char) :
    mask letter = mask other ↔ Alike letter other := by
  constructor
  · intro same
    have masked_iff : IsMasked letter ↔ IsMasked other := by
      rw [← mask_eq_placeholder_iff, ← mask_eq_placeholder_iff, same]
    by_cases masked : IsMasked letter
    · exact .inr ⟨masked, masked_iff.1 masked⟩
    · left
      calc
        letter
        _ = mask letter := (mask_eq_self masked).symm
        _ = mask other := same
        _ = other := mask_eq_self (mt masked_iff.2 masked)
  · rintro (rfl | ⟨masked, otherMasked⟩)
    · rfl
    · rw [(mask_eq_placeholder_iff letter).2 masked, (mask_eq_placeholder_iff other).2 otherMasked]

/-- A waw and a ya are alike; a waw and a separator are not. -/
example : Alike '\u0648' '\u064A' ∧ ¬Alike '\u0648' '.' := by
  decide

/-! ## Places -/

theorem toList_pattern (text : String) :
    (pattern text).toList = (letters text).flatMap fun letter => [mask letter, separator] := by
  rw [pattern, String.toList_ofList]

/-- The masked letters stand at the even places of a pattern, and separators at the odd ones. -/
theorem getElem?_pattern (text : String) (place : Nat) :
    (pattern text).toList[2 * place]? = (letters text)[place]?.map mask ∧
    (pattern text).toList[2 * place + 1]? = (letters text)[place]?.map fun _ => separator := by
  rw [toList_pattern]
  generalize letters text = root
  induction root generalizing place with
  | nil => simp
  | cons letter rest inductionHypothesis =>
      rw [List.flatMap_cons, List.cons_append, List.singleton_append]
      cases place with
      | zero => exact ⟨rfl, rfl⟩
      | succ place =>
          rw [Nat.mul_succ]
          simpa only [List.getElem?_cons_succ] using inductionHypothesis place

theorem length_pattern (text : String) :
    (pattern text).length = 2 * (letters text).length := by
  rw [← String.length_toList, toList_pattern]
  simp [Nat.mul_comm]

/-- Only a blank root has an empty pattern. -/
theorem pattern_eq_empty_iff (text : String) :
    pattern text = "" ↔ ∀ character ∈ text.toList, Text.isBlank character = true := by
  calc
    pattern text = ""
    _ ↔ (letters text).length = 0 := by
      rw [← String.length_eq_zero_iff, length_pattern]
      omega
    _ ↔ ∀ character ∈ text.toList, Text.isBlank character = true := by
      simp [letters]

/-! ## Patterns -/

/-- Roots have the same pattern exactly when they have the same masked letters. -/
theorem pattern_eq_iff_map_mask (text other : String) :
    pattern text = pattern other ↔ (letters text).map mask = (letters other).map mask := by
  constructor
  · intro same
    ext1 place
    rw [List.getElem?_map, List.getElem?_map, ← (getElem?_pattern text place).1, same,
      (getElem?_pattern other place).1]
  · intro same
    have pairs (root : List Char) :
        (root.flatMap fun letter => [mask letter, separator]) =
          (root.map mask).flatMap fun letter => [letter, separator] := by
      rw [List.flatMap_map]
    rw [pattern, pattern, pairs, same, ← pairs]

/-- Roots have the same pattern exactly when their letters are alike, one by one. -/
theorem pattern_eq_iff_forall₂_alike (text other : String) :
    pattern text = pattern other ↔ List.Forall₂ Alike (letters text) (letters other) := by
  rw [pattern_eq_iff_map_mask, ← List.forall₂_eq_eq_eq, List.forall₂_map_left_iff,
    List.forall₂_map_right_iff]
  simp only [mask_eq_mask_iff]

/-- A pattern identifies a root up to its blanks and its weak letters. It is empty exactly when the
root is blank, and twice as long as the root without its blanks. Its even places hold the letters
in order, with the placeholder for each weak one, and its odd places hold separators. So two roots
have the same pattern exactly when their letters are pairwise equal or both of them weak or the
placeholder. -/
theorem pattern_identifies_root_up_to_weak_letters (text other : String) :
    (pattern text = "" ↔ ∀ character ∈ text.toList, Text.isBlank character = true) ∧
      (pattern text).length = 2 * (letters text).length ∧
      (∀ place,
        (pattern text).toList[2 * place]? = (letters text)[place]?.map (fun letter =>
          if letter ∈ weakLetters then placeholder else letter) ∧
        (pattern text).toList[2 * place + 1]? = (letters text)[place]?.map fun _ => separator) ∧
      (pattern text = pattern other ↔ List.Forall₂ Alike (letters text) (letters other)) := by
  refine ⟨pattern_eq_empty_iff text, length_pattern text, fun place => ?_,
    pattern_eq_iff_forall₂_alike text other⟩
  simp only [← mask_eq_ite]
  exact getElem?_pattern text place

/-- A separator and a placeholder in a typed root are letters like any other. -/
example : pattern "\u0642 \u0648.#" = "\u0642.#...#." := by
  rfl

end Root
end Concordance
