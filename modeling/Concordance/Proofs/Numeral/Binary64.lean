import Concordance.Numeral.Binary64
import Mathlib.Algebra.Order.Ring.Nat
import Mathlib.Algebra.Ring.Int.Defs

/-!
# Integers as binary fractions

An integer has a nearest binary fraction exactly when its magnitude stays below the middle
between the greatest number and the next power of two. A number is positive exactly when it is a
number and not zero or less.
-/

namespace Concordance
namespace Binary64

/-- Whether a number is greater than zero. -/
def IsPositive : Binary64 -> Prop
  | .nan => False
  | .infinite negative => negative = false
  | .finite negative mantissa _ => negative = false ∧ 0 < mantissa

/-- A number that is not zero or less is positive, unless it is no number. -/
theorem isPositive_iff (number : Binary64) :
    number.IsPositive ↔ number ≠ .nan ∧ number.isNonPositive = false := by
  cases number with
  | nan => simp [IsPositive]
  | infinite negative => simp [IsPositive, isNonPositive]
  | finite negative mantissa exponent =>
      simp [IsPositive, isNonPositive, Nat.pos_iff_ne_zero]

/-- Rounding goes up by one at most. -/
theorem roundHalfEven_le (numerator denominator : Nat) :
    roundHalfEven numerator denominator ≤ numerator / denominator + 1 := by
  unfold roundHalfEven
  simp only
  split_ifs <;> omega

/-- A fraction below an even integer is rounded to it from the middle on. -/
theorem roundHalfEven_eq_iff
    {numerator denominator top : Nat}
    (even : top % 2 = 0)
    (below : numerator < top * denominator) :
    roundHalfEven numerator denominator = top ↔
      2 * (top * denominator) ≤ 2 * numerator + denominator := by
  have parts := Nat.div_add_mod numerator denominator
  have remainderSmall : numerator % denominator < denominator :=
    Nat.mod_lt numerator (Nat.pos_of_mul_pos_left (Nat.zero_lt_of_lt below))
  have quotientSmall : numerator / denominator < top :=
    Nat.div_lt_of_lt_mul (by rwa [Nat.mul_comm])
  rcases Nat.lt_or_ge (numerator / denominator + 1) top with low | high
  · have gap := Nat.mul_le_mul_left denominator (Nat.succ_le_of_lt low)
    have bound := roundHalfEven_le numerator denominator
    rw [Nat.mul_comm top]
    simp only [Nat.succ_eq_add_one, Nat.mul_add, Nat.mul_one] at gap
    constructor <;> intro <;> omega
  · have next : top = numerator / denominator + 1 := by omega
    have product : top * denominator = denominator * (numerator / denominator) + denominator := by
      rw [next, Nat.add_mul, Nat.one_mul, Nat.mul_comm]
    unfold roundHalfEven
    simp only
    rw [product]
    split_ifs <;> omega

/-- The exponent of a positive integer is counted from its greatest binary digit. -/
theorem exponentOf_one
    {number : Nat}
    (positive : number ≠ 0) :
    exponentOf number 1 = (number.log2 : Int) - 52 := by
  have digit : 2 ^ number.log2 ≤ number := Nat.log2_self_le positive
  have one : Nat.log2 1 = 0 := by decide
  unfold exponentOf
  simp only [one, Int.natCast_zero, Int.sub_zero]
  rcases Nat.lt_or_ge number.log2 52 with short | long
  · have negative : ¬(0 : Int) ≤ number.log2 - 52 := by omega
    have shift : (-((number.log2 : Int) - 52)).toNat = 52 - number.log2 := by omega
    have full : ¬number * 2 ^ (52 - number.log2) < 1 * 2 ^ 52 := by
      rw [Nat.not_lt, Nat.one_mul]
      calc
        2 ^ 52
        _ = 2 ^ number.log2 * 2 ^ (52 - number.log2) := by
          rw [← Nat.pow_add, Nat.add_sub_cancel' (Nat.le_of_lt short)]
        _ ≤ number * 2 ^ (52 - number.log2) := Nat.mul_le_mul_right _ digit
    simp only [scale, if_neg negative, shift, Nat.pow_eq, if_neg full]
    exact max_eq_left (by unfold leastExponent; omega)
  · have natural : (0 : Int) ≤ number.log2 - 52 := by omega
    have shift : ((number.log2 : Int) - 52).toNat = number.log2 - 52 := by omega
    have full : ¬number < 1 * 2 ^ (number.log2 - 52) * 2 ^ 52 := by
      rw [Nat.not_lt, Nat.one_mul, ← Nat.pow_add, Nat.sub_add_cancel long]
      exact digit
    simp only [scale, if_pos natural, shift, Nat.pow_eq, if_neg full]
    exact max_eq_left (by unfold leastExponent; omega)

/-- The nearest number to a fraction that is not zero. A mantissa that is rounded up to one digit
more is halved. -/
theorem ofRatio?_of_ne_zero
    (negative : Bool)
    {numerator denominator scaledNumerator scaledDenominator mantissa : Nat}
    {exponent : Int}
    (nonzero : numerator ≠ 0)
    (exponentEq : exponentOf numerator denominator = exponent)
    (scaleEq : scale numerator denominator exponent = (scaledNumerator, scaledDenominator))
    (mantissaEq : roundHalfEven scaledNumerator scaledDenominator = mantissa) :
    ofRatio? negative numerator denominator =
      if greatestExponent < (if mantissa = Nat.pow 2 53 then exponent + 1 else exponent) then none
      else
        some (.finite negative (if mantissa = Nat.pow 2 53 then Nat.pow 2 52 else mantissa)
          (if mantissa = Nat.pow 2 53 then exponent + 1 else exponent)) := by
  unfold ofRatio?
  rw [if_neg nonzero, exponentEq]
  simp only [scaleEq, mantissaEq]
  by_cases carries : mantissa = Nat.pow 2 53
  · simp only [if_pos carries]
  · simp only [if_neg carries]

/-- An integer more than one binary digit below a power of two does not get to the middle before
it. -/
theorem add_lt_of_lt
    {number limit : Nat}
    (below : number < 2 ^ (limit + 53)) :
    number + 2 ^ limit < 2 ^ (limit + 54) := by
  have less : 2 ^ limit ≤ 2 ^ (limit + 53) := Nat.pow_le_pow_right (by decide) (by omega)
  have twice : 2 ^ (limit + 54) = 2 ^ (limit + 53) * 2 := Nat.pow_succ 2 (limit + 53)
  omega

/-- A mantissa that is rounded from an integer has an exponent beyond another one exactly when the
integer gets to the middle between the greatest number with that exponent and the next power of
two. -/
theorem lt_roundedExponent_iff
    {number exponent limit : Nat}
    (least : 2 ^ (exponent + 52) ≤ number)
    (below : number < 2 ^ (exponent + 53)) :
    (limit + 1 <
        if roundHalfEven number (2 ^ exponent) = 2 ^ 53 then exponent + 1 else exponent) ↔
      2 ^ (limit + 54) ≤ number + 2 ^ limit := by
  have product : 2 ^ 53 * 2 ^ exponent = 2 ^ (exponent + 53) := by
    rw [Nat.mul_comm, Nat.pow_add]
  have carries :
      roundHalfEven number (2 ^ exponent) = 2 ^ 53 ↔
        2 * 2 ^ (exponent + 53) ≤ 2 * number + 2 ^ exponent := by
    rw [← product] at below ⊢
    exact roundHalfEven_eq_iff (by decide) below
  rcases Nat.lt_trichotomy exponent (limit + 1) with low | same | high
  · have small : number < 2 ^ (limit + 53) :=
      Nat.lt_of_lt_of_le below (Nat.pow_le_pow_right (by decide) (by omega))
    have notReached := add_lt_of_lt small
    constructor
    · intro beyond
      split at beyond <;> omega
    · omega
  · subst same
    have power : 2 ^ (limit + 1 + 53) = 2 ^ (limit + 54) := by
      rw [Nat.add_assoc]
    have twice : 2 ^ (limit + 1) = 2 ^ limit * 2 := Nat.pow_succ 2 limit
    by_cases carry : roundHalfEven number (2 ^ (limit + 1)) = 2 ^ 53
    · have reached := carries.1 carry
      rw [if_pos carry]
      omega
    · have notReached := mt carries.2 carry
      rw [if_neg carry]
      omega
  · have reached : 2 ^ (limit + 54) ≤ 2 ^ (exponent + 52) :=
      Nat.pow_le_pow_right (by decide) (by omega)
    constructor
    · intro
      exact Nat.le_trans (Nat.le_trans reached least) (Nat.le_add_right number _)
    · intro
      split <;> omega

/-- A natural number lies beyond the greatest number exactly when it gets to the middle between
that number and the next power of two. -/
theorem ofRatio?_one_eq_none_iff
    (negative : Bool)
    (number : Nat)
    {limit : Nat}
    (greatest : greatestExponent = limit + 1) :
    ofRatio? negative number 1 = none ↔ 2 ^ (limit + 54) - 2 ^ limit ≤ number := by
  rw [Nat.sub_le_iff_le_add]
  by_cases zero : number = 0
  · subst zero
    have notReached := add_lt_of_lt (Nat.two_pow_pos (limit + 53))
    rw [ofRatio?, if_pos rfl]
    simp only [reduceCtorEq, false_iff]
    omega
  · have digit : 2 ^ number.log2 ≤ number := Nat.log2_self_le zero
    have digits : number < 2 ^ (number.log2 + 1) := Nat.lt_log2_self
    have exponentEq := exponentOf_one zero
    rcases Nat.lt_or_ge number.log2 52 with short | long
    · have small : number < 2 ^ (limit + 53) :=
        Nat.lt_of_lt_of_le digits (Nat.pow_le_pow_right (by decide) (by omega))
      have notReached := add_lt_of_lt small
      have shifted :
          scale number 1 ((number.log2 : Int) - 52) =
            (number * Nat.pow 2 (-((number.log2 : Int) - 52)).toNat, 1) := by
        rw [scale, if_neg (by omega)]
      rw [ofRatio?_of_ne_zero negative zero exponentEq shifted rfl]
      simp only [ite_eq_left_iff, reduceCtorEq, imp_false, not_not]
      constructor
      · intro beyond
        split at beyond <;> omega
      · omega
    · obtain ⟨exponent, exponentIs⟩ := Nat.exists_eq_add_of_le' long
      rw [exponentIs] at exponentEq digit digits
      have natural : ((exponent + 52 : Nat) : Int) - 52 = exponent := by omega
      rw [natural] at exponentEq
      have shifted : scale number 1 exponent = (number, 2 ^ exponent) := by
        rw [scale, if_pos (by omega), Int.toNat_natCast, Nat.one_mul]
        rfl
      rw [ofRatio?_of_ne_zero negative zero exponentEq shifted rfl,
        ← lt_roundedExponent_iff digit digits]
      simp only [ite_eq_left_iff, reduceCtorEq, imp_false, not_not, greatest, Nat.pow_eq]
      split <;> omega

/-- The least magnitude of an integer beyond all numbers, which is the middle between the greatest
number and the next power of two. -/
def integerBound : Nat := 2 ^ 1024 - 2 ^ 970

/-- An integer has no nearest number exactly when its magnitude gets to the bound. -/
theorem ofInt?_eq_none_iff (number : Int) :
    ofInt? number = none ↔ integerBound ≤ number.natAbs := by
  have greatest : greatestExponent = (970 : Nat) + 1 := by decide
  have power : 970 + 54 = 1024 := rfl
  have beyond := ofRatio?_one_eq_none_iff (number < 0) number.natAbs greatest
  rw [power] at beyond
  unfold ofInt? integerBound
  exact beyond

/-- The nearest number to an integer is a number. -/
theorem ne_nan_of_ofInt?_eq_some
    {number : Int}
    {nearest : Binary64}
    (found : ofInt? number = some nearest) :
    nearest ≠ .nan := by
  rintro rfl
  by_cases zero : number.natAbs = 0
  · rw [ofInt?, ofRatio?, if_pos zero] at found
    cases found
  · cases scaled : scale number.natAbs 1 (exponentOf number.natAbs 1) with
    | mk numerator denominator =>
        rw [ofInt?, ofRatio?_of_ne_zero _ zero rfl scaled rfl,
          Option.ite_none_left_eq_some] at found
        exact Binary64.noConfusion (Option.some.inj found.2)

end Binary64
end Concordance
