import Concordance.Numeral.Integer
import Concordance.Proofs.Text.Blank

/-!
# Written integers

A written integer is made of decimal digits behind an optional minus. It is read back where it
has no more digits than a numeral may have.
-/

namespace Concordance

namespace Text

theorem bounds_of_isDigit
    {character : Char}
    (digit : character.isDigit = true) :
    48 ≤ character.toNat ∧ character.toNat ≤ 57 := by
  simpa using Char.isDigit_iff_toNat.1 digit

/-- The value of a plain decimal digit. -/
theorem decimalValue?_of_isDigit
    {character : Char}
    (digit : character.isDigit = true) :
    decimalValue? character = some (character.toNat - '0'.toNat) := by
  obtain ⟨least, greatest⟩ := bounds_of_isDigit digit
  have ownRow :
      digitZeros.find? (fun start =>
        start ≤ character.toNat && character.toNat < start + 10) = some 48 := by
    have below : character.toNat < 58 := by omega
    simp [digitZeros, least, below]
  rw [decimalValue?, ownRow, Option.map_some]
  rfl

/-- A plain decimal digit is no blank. -/
theorem isBlank_of_isDigit
    {character : Char}
    (digit : character.isDigit = true) :
    isBlank character = false := by
  obtain ⟨least, greatest⟩ := bounds_of_isDigit digit
  rw [← Bool.not_eq_true]
  simp only [isBlank, Bool.or_eq_true, Bool.and_eq_true, decide_eq_true_eq, beq_iff_eq]
  omega

theorem isDecimal_of_isDigit
    {character : Char}
    (digit : character.isDigit = true) :
    isDecimal character = true := by
  rw [isDecimal, decimalValue?_of_isDigit digit, Option.isSome_some]

theorem isDigitSign_of_isDigit
    {character : Char}
    (digit : character.isDigit = true) :
    isDigitSign character = true :=
  isDigitSign_of_isDecimal (isDecimal_of_isDigit digit)

end Text

namespace Numeral

/-- Whether an integer has no more digits than a numeral may have. -/
def IsSpellable (number : Int) : Prop :=
  (Nat.repr number.natAbs).length ≤ digitLimit

instance : DecidablePred IsSpellable := fun number =>
  inferInstanceAs (Decidable ((Nat.repr number.natAbs).length ≤ digitLimit))

/-- Digits are read one by one from the left. -/
theorem readDigits_of_isDigit
    (digits : List Char)
    (value count : Nat)
    (afterDigit : Bool)
    (allDigits : ∀ character ∈ digits, character.isDigit = true)
    (nonempty : digits ≠ [] ∨ afterDigit = true) :
    readDigits value count afterDigit digits =
      some (Nat.ofDigitChars 10 digits value, count + digits.length, []) := by
  induction digits generalizing value count afterDigit with
  | nil => simp_all [readDigits]
  | cons digit rest inductionHypothesis =>
      rw [List.forall_mem_cons] at allDigits
      simp only [readDigits, Text.decimalValue?_of_isDigit allDigits.1]
      rw [inductionHypothesis _ _ _ allDigits.2 (Or.inr rfl), Nat.ofDigitChars_cons,
        List.length_cons]
      simp only [Nat.add_assoc, Nat.add_comm 1]

/-- The characters of a written natural number are plain decimal digits. -/
theorem isDigit_of_mem_repr
    {number : Nat}
    {character : Char}
    (member : character ∈ (Nat.repr number).toList) :
    character.isDigit = true := by
  rw [Nat.toList_repr] at member
  exact Nat.isDigit_of_mem_toDigits (by decide) (by decide) member

/-- The characters of a written integer are plain decimal digits and the minus. -/
theorem isDigit_or_eq_of_mem_spell
    {number : Int}
    {character : Char}
    (member : character ∈ (spell number).toList) :
    character.isDigit = true ∨ character = '-' ∧ number < 0 := by
  cases number with
  | ofNat value => exact Or.inl (isDigit_of_mem_repr member)
  | negSucc value =>
      rw [spell, String.toList_append, List.mem_append] at member
      rcases member with minus | digits
      · exact Or.inr ⟨by simpa using minus, Int.negSucc_lt_zero value⟩
      · exact Or.inl (isDigit_of_mem_repr digits)

/-- The characters of a written integer that is not negative are plain decimal digits. -/
theorem isDigit_of_mem_spell
    {number : Int}
    {character : Char}
    (natural : 0 ≤ number)
    (member : character ∈ (spell number).toList) :
    character.isDigit = true := by
  rcases isDigit_or_eq_of_mem_spell member with digit | ⟨_, negative⟩
  · exact digit
  · exact absurd natural (Int.not_le.2 negative)

/-- A written integer has no blanks. -/
theorem isBlank_of_mem_spell
    {number : Int}
    {character : Char}
    (member : character ∈ (spell number).toList) :
    Text.isBlank character = false := by
  rcases isDigit_or_eq_of_mem_spell member with digit | ⟨rfl, _⟩
  · exact Text.isBlank_of_isDigit digit
  · decide

theorem spell_ne_empty (number : Int) : spell number ≠ "" := by
  cases number with
  | ofNat value => exact Nat.repr_ne_empty
  | negSucc value => simp [spell]

/-- A text without blanks has no margins. -/
theorem trimMargins_eq_self
    {text : List Char}
    (clean : ∀ character ∈ text, Text.isBlank character = false) :
    trimMargins text = text := by
  apply Text.dropEnds_eq_self
  intro character member
  simp [isMargin, clean character member]

/-- The digits of a written natural number are read back. -/
theorem readDigits_repr (number : Nat) :
    readDigits 0 0 false (Nat.repr number).toList =
      some (number, (Nat.repr number).length, []) := by
  have nonempty : (Nat.repr number).toList ≠ [] := by
    simp
  rw [readDigits_of_isDigit _ 0 0 false (fun _ => isDigit_of_mem_repr) (Or.inl nonempty),
    Nat.toList_repr, Nat.ofDigitChars_ten_toDigits, Nat.zero_add, ← Nat.toList_repr,
    String.length_toList]

/-- A digit is no sign. -/
theorem splitSign_of_isDigit
    {text : List Char}
    (allDigits : ∀ character ∈ text, character.isDigit = true) :
    splitSign text = (false, text) := by
  unfold splitSign
  split
  · exact absurd (allDigits '-' List.mem_cons_self) (by decide)
  · exact absurd (allDigits '+' List.mem_cons_self) (by decide)
  · rfl

/-- A sign with a written natural number behind it is read as that number or its negative. -/
theorem readInteger_of_splitSign
    {text : String}
    {negative : Bool}
    {value : Nat}
    (split : splitSign (trimMargins text.toList) = (negative, (Nat.repr value).toList))
    (short : (Nat.repr value).length ≤ digitLimit) :
    readInteger text = .ok (if negative then -(value : Int) else value) := by
  unfold readInteger
  simp only [split, readDigits_repr, if_neg (Nat.not_lt.2 short), List.isEmpty_nil, Bool.not_true,
    Bool.false_eq_true, if_false]

/-- A written integer is read back. -/
theorem readInteger_spell
    {number : Int}
    (spellable : IsSpellable number) :
    readInteger (spell number) = .ok number := by
  have noMargins : trimMargins (spell number).toList = (spell number).toList :=
    trimMargins_eq_self fun _ => isBlank_of_mem_spell
  cases number with
  | ofNat value =>
      have unsigned :
          splitSign (trimMargins (spell (.ofNat value)).toList) =
            (false, (Nat.repr value).toList) := by
        rw [noMargins]
        exact splitSign_of_isDigit fun _ => isDigit_of_mem_repr
      exact readInteger_of_splitSign unsigned spellable
  | negSucc value =>
      have signed :
          splitSign (trimMargins (spell (.negSucc value)).toList) =
            (true, (Nat.repr (value + 1)).toList) := by
        rw [noMargins]
        simp [spell, splitSign]
      exact readInteger_of_splitSign signed spellable

end Numeral
end Concordance
