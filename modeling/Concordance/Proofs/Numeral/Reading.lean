import Concordance.Proofs.Numeral.Integer
import Concordance.Proofs.Outcome
import Mathlib.Data.Nat.Digits.Defs
import Mathlib.Tactic.Ring

/-!
# Integers that are read

A numeral has a value below the power of ten of the number of its digits. So an integer that is
read can be written again, and it is not negative where the numeral has no minus. Of the texts that
are made of digit signs, those are read that are some decimal digits, up to the limit on their
number, and what is read is their value.
-/

namespace Concordance

namespace Text

/-- No row of digits reaches into the blanks. -/
theorem digitRows_beside_blanks :
    (∀ start ∈ digitZeros,
      0x20 < start ∧ start + 10 ≤ 0x85 ∨ 0xA0 < start ∧ start + 10 ≤ 0x1680 ∨
        0x1680 < start ∧ start + 10 ≤ 0x2000 ∨ 0x3000 < start) ∧
    ∀ row ∈ otherDigitSigns,
      0xA0 < row.1 ∧ row.2 < 0x1680 ∨ 0x1680 < row.1 ∧ row.2 < 0x2000 ∨
        0x205F < row.1 ∧ row.2 < 0x3000 ∨ 0x3000 < row.1 := by
  decide

/-- A decimal digit stands in one of the rows of digits. -/
theorem exists_zero_of_isDecimal
    {character : Char}
    (decimal : isDecimal character = true) :
    ∃ start ∈ digitZeros, start ≤ character.toNat ∧ character.toNat < start + 10 := by
  simp only [isDecimal, decimalValue?, Option.isSome_map, List.find?_isSome, Bool.and_eq_true,
    decide_eq_true_eq] at decimal
  exact decimal

/-- A digit sign is no blank. -/
theorem isBlank_of_isDigitSign
    {character : Char}
    (sign : isDigitSign character = true) :
    isBlank character = false := by
  rw [← Bool.not_eq_true]
  simp only [isBlank, Bool.or_eq_true, Bool.and_eq_true, decide_eq_true_eq, beq_iff_eq]
  rw [isDigitSign, Bool.or_eq_true] at sign
  rcases sign with decimal | other
  · obtain ⟨start, isZero, least, greatest⟩ := exists_zero_of_isDecimal decimal
    have beside := digitRows_beside_blanks.1 start isZero
    omega
  · simp only [List.any_eq_true, Bool.and_eq_true, decide_eq_true_eq] at other
    obtain ⟨row, isRow, least, greatest⟩ := other
    have beside := digitRows_beside_blanks.2 row isRow
    omega

end Text

namespace Numeral

/-- Digits have a value below the power of ten of their number. -/
theorem readDigits_lt
    {value count total digits : Nat}
    {afterDigit : Bool}
    {text rest : List Char}
    (reads : readDigits value count afterDigit text = some (total, digits, rest))
    (bound : value < 10 ^ count) :
    total < 10 ^ digits := by
  induction text generalizing value count afterDigit with
  | nil =>
      unfold readDigits at reads
      split at reads
      · cases reads
        exact bound
      · cases reads
  | cons character others inductionHypothesis =>
      unfold readDigits at reads
      cases found : Text.decimalValue? character with
      | some digit =>
          rw [found] at reads
          have small := Text.decimalValue?_lt found
          apply inductionHypothesis reads
          rw [Nat.pow_succ]
          omega
      | none =>
          simp only [found] at reads
          split at reads
          · cases reads
          · split at reads
            · exact inductionHypothesis reads bound
            · cases reads
              exact bound

theorem isSpellable_of_natAbs_lt
    {number : Int}
    (bound : number.natAbs < 10 ^ digitLimit) :
    IsSpellable number :=
  Nat.repr_length number.natAbs digitLimit (by decide) bound

/-- What stands in a text without its margins stands in the text. -/
theorem mem_of_mem_trimMargins
    {text : List Char}
    {character : Char}
    (member : character ∈ trimMargins text) :
    character ∈ text := by
  unfold trimMargins at member
  rw [List.mem_reverse] at member
  have inReverse := (List.dropWhile_sublist isMargin).mem member
  exact (List.dropWhile_sublist isMargin).mem (List.mem_reverse.1 inReverse)

/-- A text without a minus has no negative sign. -/
theorem splitSign_of_not_mem
    {text : List Char}
    (unsigned : '-' ∉ text) :
    (splitSign text).1 = false := by
  unfold splitSign
  split
  · exact absurd List.mem_cons_self unsigned
  · rfl
  · rfl

/-- An integer that is read has no more digits than a numeral may have. -/
theorem natAbs_lt_of_readInteger
    {text : String}
    {number : Int}
    (reads : readInteger text = .ok number) :
    number.natAbs < 10 ^ digitLimit := by
  unfold readInteger at reads
  simp only at reads
  split at reads
  next => cases reads
  next value count rest digits =>
    obtain ⟨short, readsRest⟩ := of_guarded_eq_ok reads
    obtain ⟨_, readsValue⟩ := of_guarded_eq_ok readsRest
    have bound := readDigits_lt digits (by decide)
    have limit := Nat.pow_le_pow_right (by decide : 0 < 10) (Nat.not_lt.1 short)
    have magnitude : number.natAbs = value := by
      cases readsValue
      split
      · rw [Int.natAbs_neg, Int.natAbs_natCast]
      · exact Int.natAbs_natCast value
    rw [magnitude]
    exact Nat.lt_of_lt_of_le bound limit

/-- An integer that is read from a text without a minus is natural, and has no more digits than a
numeral may have. -/
theorem readInteger_bounds
    {text : String}
    {number : Int}
    (unsigned : '-' ∉ text.toList)
    (reads : readInteger text = .ok number) :
    0 ≤ number ∧ number.natAbs < 10 ^ digitLimit := by
  refine ⟨?_, natAbs_lt_of_readInteger reads⟩
  have noMinus : '-' ∉ trimMargins text.toList := mt mem_of_mem_trimMargins unsigned
  have positive := splitSign_of_not_mem noMinus
  unfold readInteger at reads
  simp only [positive] at reads
  split at reads
  next => cases reads
  next value count rest digits =>
    obtain ⟨_, readsRest⟩ := of_guarded_eq_ok reads
    obtain ⟨_, readsValue⟩ := of_guarded_eq_ok readsRest
    cases readsValue
    exact Int.natCast_nonneg value

/-! ## Digits and nothing else -/

/-- The value of decimal digits: each counts the power of ten of its place. -/
def digitsValue : List Char -> Nat
  | [] => 0
  | digit :: rest => (Text.decimalValue? digit).getD 0 * 10 ^ rest.length + digitsValue rest

@[simp] theorem digitsValue_nil : digitsValue [] = 0 := rfl

/-- Digits have a value below the power of ten of their number. -/
theorem digitsValue_lt (digits : List Char) : digitsValue digits < 10 ^ digits.length := by
  induction digits with
  | nil => decide
  | cons digit rest inductionHypothesis =>
      have small : (Text.decimalValue? digit).getD 0 ≤ 9 := by
        cases found : Text.decimalValue? digit with
        | none => decide
        | some value => exact Nat.le_of_lt_succ (Text.decimalValue?_lt found)
      have place := Nat.mul_le_mul_right (10 ^ rest.length) small
      rw [digitsValue, List.length_cons, Nat.pow_succ]
      omega

/-- A text without underscores is read to its end exactly where all of it are decimal digits, and
its value is that of the digits. -/
theorem readDigits_eq_some_iff
    {text : List Char}
    {value count total digits : Nat}
    {afterDigit : Bool}
    (clean : '_' ∉ text) :
    readDigits value count afterDigit text = some (total, digits, []) ↔
      (text ≠ [] ∨ afterDigit = true) ∧
      (∀ character ∈ text, Text.isDecimal character = true) ∧
      total = value * 10 ^ text.length + digitsValue text ∧
      digits = count + text.length := by
  -- The value and the count of the digits before the text grow along it.
  induction text generalizing value count afterDigit with
  | nil =>
      cases afterDigit with
      | false => simp [readDigits]
      | true =>
          constructor
          · intro reads
            cases reads
            simp
          · rintro ⟨_, _, rfl, rfl⟩
            simp [readDigits]
  | cons character rest inductionHypothesis =>
      rw [List.mem_cons, not_or] at clean
      rw [List.forall_mem_cons, readDigits, digitsValue]
      cases found : Text.decimalValue? character with
      | some digit =>
          have decimal : Text.isDecimal character = true := by rw [Text.isDecimal, found]; rfl
          simp only [inductionHypothesis clean.2, decimal, Option.getD_some, List.length_cons,
            Nat.pow_succ]
          have sums : (10 * value + digit) * 10 ^ rest.length + digitsValue rest =
              value * (10 ^ rest.length * 10) + (digit * 10 ^ rest.length + digitsValue rest) := by
            ring
          have counts : count + 1 + rest.length = count + (rest.length + 1) := by omega
          rw [sums, counts]
          simp
      | none =>
          have foreign : Text.isDecimal character = false := by rw [Text.isDecimal, found]; rfl
          cases afterDigit <;> simp [foreign, Ne.symm clean.1]

/-- A text with no sign has none split off. -/
theorem splitSign_eq_self
    {text : List Char}
    (noMinus : '-' ∉ text)
    (noPlus : '+' ∉ text) :
    splitSign text = (false, text) := by
  unfold splitSign
  split
  · exact absurd List.mem_cons_self noMinus
  · exact absurd List.mem_cons_self noPlus
  · rfl

/-- A text of digit signs is read exactly where it is some decimal digits, and not more of them
than a numeral may have; it is read as their value. -/
theorem readInteger_eq_ok_iff
    {text : List Char}
    {number : Int}
    (signs : ∀ character ∈ text, Text.isDigitSign character = true) :
    readInteger (String.ofList text) = .ok number ↔
      text ≠ [] ∧
      (∀ character ∈ text, Text.isDecimal character = true) ∧
      text.length ≤ digitLimit ∧
      number = digitsValue text := by
  have missing (character : Char) (noSign : Text.isDigitSign character = false) :
      character ∉ text := by
    intro member
    rw [signs character member] at noSign
    cases noSign
  have trimmed : trimMargins text = text :=
    trimMargins_eq_self fun character member => Text.isBlank_of_isDigitSign (signs character member)
  unfold readInteger
  simp only [String.toList_ofList, trimmed,
    splitSign_eq_self (missing '-' (by decide)) (missing '+' (by decide))]
  constructor
  · intro reads
    split at reads
    next => cases reads
    next value count rest found =>
      obtain ⟨short, readsRest⟩ := of_guarded_eq_ok reads
      obtain ⟨ended, readsValue⟩ := of_guarded_eq_ok readsRest
      obtain rfl : rest = [] := by simpa using ended
      obtain ⟨nonempty, decimals, rfl, rfl⟩ :=
        (readDigits_eq_some_iff (missing '_' (by decide))).1 found
      cases readsValue
      simp only [Bool.false_eq_true, or_false] at nonempty
      simp only [Nat.zero_add, Nat.not_lt] at short
      exact ⟨nonempty, decimals, short, by simp⟩
  · rintro ⟨nonempty, decimals, short, rfl⟩
    have found :
        readDigits 0 0 false text = some (digitsValue text, text.length, []) := by
      rw [readDigits_eq_some_iff (missing '_' (by decide))]
      exact ⟨Or.inl nonempty, decimals, by simp, by simp⟩
    simp [found, Nat.not_lt.2 short]
end Numeral
end Concordance
