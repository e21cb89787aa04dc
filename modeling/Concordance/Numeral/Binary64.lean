/-!
# Binary fractions of 53 bits

A finite number is `mantissa * 2 ^ exponent` with a mantissa below `2 ^ 53` and
an exponent of at least `-1074`; a mantissa below `2 ^ 52` stands only with the
least exponent, so every number is written in one way. Zeros have a sign.
Rounding goes to the nearest such number, and from halfway to the even mantissa.
All arithmetic here is exact arithmetic of integers.
-/

namespace Concordance

/-- A binary fraction of 53 bits, an infinity, or no number. -/
inductive Binary64
  | nan
  | infinite (negative : Bool)
  | finite (negative : Bool) (mantissa : Nat) (exponent : Int)
  deriving DecidableEq, Repr

namespace Binary64

/-- The least exponent. -/
def leastExponent : Int := -1074

/-- The greatest exponent. -/
def greatestExponent : Int := 971

/-- Zero with a sign. -/
def signedZero (negative : Bool) : Binary64 := .finite negative 0 leastExponent

/-- The fraction `numerator / denominator / 2 ^ exponent`, as a fraction again. -/
def scale (numerator denominator : Nat) (exponent : Int) : Nat × Nat :=
  if 0 ≤ exponent then (numerator, denominator * Nat.pow 2 exponent.toNat)
  else (numerator * Nat.pow 2 (-exponent).toNat, denominator)

/-- The integer nearest to a fraction, and the even one of two. -/
def roundHalfEven (numerator denominator : Nat) : Nat :=
  let quotient := numerator / denominator
  let remainder := numerator % denominator
  if 2 * remainder < denominator then quotient
  else if denominator < 2 * remainder then quotient + 1
  else if quotient % 2 = 0 then quotient
  else quotient + 1

/-- The exponent at which a positive fraction has a mantissa of 53 bits, or the
least exponent where that would be smaller. -/
def exponentOf (numerator denominator : Nat) : Int :=
  let estimate : Int := (numerator.log2 : Int) - denominator.log2 - 52
  let (scaledNumerator, scaledDenominator) := scale numerator denominator estimate
  let exact :=
    if scaledNumerator < scaledDenominator * Nat.pow 2 52 then estimate - 1 else estimate
  max exact leastExponent

/-- The nearest number to a fraction; none when it lies beyond the greatest. -/
def ofRatio? (negative : Bool) (numerator denominator : Nat) : Option Binary64 :=
  if numerator = 0 then some (signedZero negative)
  else
    let exponent := exponentOf numerator denominator
    let (scaledNumerator, scaledDenominator) := scale numerator denominator exponent
    let mantissa := roundHalfEven scaledNumerator scaledDenominator
    let (mantissa, exponent) :=
      if mantissa = Nat.pow 2 53 then (Nat.pow 2 52, exponent + 1) else (mantissa, exponent)
    if greatestExponent < exponent then none
    else some (.finite negative mantissa exponent)

/-- The nearest number to an integer; none when it lies beyond the greatest. -/
def ofInt? (number : Int) : Option Binary64 :=
  ofRatio? (number < 0) number.natAbs 1

/-- The nearest number to `digits * 10 ^ power`, an infinity beyond the greatest.
Values far outside the range are settled by their size alone. -/
def ofDecimal (negative : Bool) (digits : Nat) (power : Int) : Binary64 :=
  let magnitude : Int := (Nat.repr digits).length + power
  if digits = 0 then signedZero negative
  else if 400 < magnitude then .infinite negative
  else if magnitude < -400 then signedZero negative
  else
    let nearest :=
      if 0 ≤ power then ofRatio? negative (digits * Nat.pow 10 power.toNat) 1
      else ofRatio? negative digits (Nat.pow 10 (-power).toNat)
    nearest.getD (.infinite negative)

/-- Whether a number is a zero. -/
def isZero : Binary64 -> Bool
  | .finite _ mantissa _ => mantissa == 0
  | _ => false

/-- Whether a number is zero or less; this fails for no number. -/
def isNonPositive : Binary64 -> Bool
  | .nan => false
  | .infinite negative => negative
  | .finite negative mantissa _ => negative || mantissa == 0

/-- The integer part of a magnitude `mantissa * 2 ^ exponent`. -/
def integerPart (mantissa : Nat) (exponent : Int) : Nat :=
  if 0 ≤ exponent then mantissa * Nat.pow 2 exponent.toNat
  else mantissa / Nat.pow 2 (-exponent).toNat

/-- The integer that is left when the fraction is dropped; none for infinities
and for no number. -/
def truncate? : Binary64 -> Option Int
  | .finite negative mantissa exponent =>
      let part : Int := integerPart mantissa exponent
      some (if negative then -part else part)
  | _ => none

/-- The least integer that is not below a number; none for infinities and for no
number. -/
def ceiling? : Binary64 -> Option Int
  | .finite negative mantissa exponent =>
      let part : Int := integerPart mantissa exponent
      if negative then some (-part)
      else if mantissa % Nat.pow 2 (-exponent).toNat = 0 then some part
      else some (part + 1)
  | _ => none

/-- The number with the other sign. -/
def negate : Binary64 -> Binary64
  | .nan => .nan
  | .infinite negative => .infinite !negative
  | .finite negative mantissa exponent => .finite (!negative) mantissa exponent

/-- The nearest number to `number * 2 ^ exponent`, an infinity beyond the
greatest. -/
def ofScaled (number exponent : Int) : Binary64 :=
  let nearest :=
    if 0 ≤ exponent then ofRatio? (number < 0) (number.natAbs * Nat.pow 2 exponent.toNat) 1
    else ofRatio? (number < 0) number.natAbs (Nat.pow 2 (-exponent).toNat)
  nearest.getD (.infinite (number < 0))

/-- A mantissa with its sign. -/
def signedMantissa (negative : Bool) (mantissa : Nat) : Int :=
  if negative then -(mantissa : Int) else mantissa

/-- The rounded sum of two numbers. -/
def add : Binary64 -> Binary64 -> Binary64
  | .finite negative mantissa exponent, .finite negative' mantissa' exponent' =>
      if mantissa = 0 ∧ mantissa' = 0 then signedZero (negative && negative')
      else
        let least := min exponent exponent'
        ofScaled
          (signedMantissa negative mantissa * Int.pow 2 (exponent - least).toNat +
            signedMantissa negative' mantissa' * Int.pow 2 (exponent' - least).toNat)
          least
  | .infinite negative, .infinite negative' =>
      if negative = negative' then .infinite negative else .nan
  | .infinite negative, .finite .. => .infinite negative
  | .finite .., .infinite negative => .infinite negative
  | .nan, _ => .nan
  | _, .nan => .nan

/-- The rounded product of a number and a count. -/
def timesNat : Binary64 -> Nat -> Binary64
  | .finite negative mantissa exponent, count =>
      if mantissa * count = 0 then signedZero negative
      else ofScaled (signedMantissa negative (mantissa * count)) exponent
  | .infinite negative, count => if count = 0 then .nan else .infinite negative
  | .nan, _ => .nan

end Binary64
end Concordance
