import Concordance.Text.Casing

/-!
# Small letters

A text of plain small letters is its own lower case.
-/

namespace Concordance
namespace Text

/-- No row of capitals reaches into the plain small letters. -/
theorem capitalRows_beside_smallLetters :
    ∀ row ∈ capitalRows.toList, row.last < 97 ∨ 122 < row.first := by
  decide +kernel

/-- A plain small letter stays as it is. -/
theorem lowerAlone_of_isLower
    {character : Char}
    (small : character.isLower = true) :
    lowerAlone character = [character] := by
  have bounds : 97 ≤ character.toNat ∧ character.toNat ≤ 122 := by
    have inRange : (decide ('a'.val ≤ character.val) && decide (character.val ≤ 'z'.val)) = true :=
      small
    simpa [UInt32.le_iff_toNat_le] using inRange
  have notDotted : character ≠ '\u0130' := by
    rintro rfl
    exact absurd small (by decide)
  have noRow :
      capitalRows.find? (fun row =>
        row.first ≤ character.toNat && character.toNat ≤ row.last &&
          (character.toNat - row.first) % row.step == 0) = none := by
    rw [Array.find?_eq_none]
    intro row member
    have beside := capitalRows_beside_smallLetters row (Array.mem_toList_iff.2 member)
    simp only [Bool.and_eq_true, decide_eq_true_eq]
    omega
  unfold lowerAlone
  simp only [if_neg notDotted, noRow]

/-- Lower case leaves plain small letters alone. -/
theorem lowerFrom_eq_self
    (before : List Char)
    {text : List Char}
    (small : ∀ character ∈ text, character.isLower = true) :
    lowerFrom before text = text := by
  induction text generalizing before with
  | nil => rfl
  | cons character rest inductionHypothesis =>
      rw [List.forall_mem_cons] at small
      have notSigma : character ≠ '\u03A3' := by
        rintro rfl
        exact absurd small.1 (by decide)
      rw [lowerFrom, if_neg notSigma, lowerAlone_of_isLower small.1,
        inductionHypothesis _ small.2, List.singleton_append]

theorem lower_eq_self
    {text : String}
    (small : ∀ character ∈ text.toList, character.isLower = true) :
    lower text = text := by
  rw [lower, lowerFrom_eq_self [] small, String.ofList_toList]

end Text
end Concordance
