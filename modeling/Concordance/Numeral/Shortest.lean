import Concordance.Numeral.Binary64

/-!
# Shortest decimal texts

A binary fraction is written with the fewest decimal digits that read back as
the same fraction, and of those texts with the one nearest to it. The reals that
read back as a fraction lie between the midpoints to its two neighbours; the
midpoints belong to it exactly when its mantissa is even.

Values from `10 ^ -4` up to, but not including, `10 ^ 16` are written with a
decimal point in place and at least one digit behind it; the others have an
exponent with a sign and at least two digits.
-/

namespace Concordance
namespace Binary64

/-- Decimal digits and the place of the point: the value is `0.digits * 10 ^ point`. -/
structure DecimalText where
  digits : List Char
  point : Int

/-- The fraction `numerator / denominator / 10 ^ power`, as a fraction again. -/
def scaleTen (numerator denominator : Nat) (power : Int) : Nat × Nat :=
  if 0 ≤ power then (numerator, denominator * Nat.pow 10 power.toNat)
  else (numerator * Nat.pow 10 (-power).toNat, denominator)

/-- A positive fraction with the distances to the midpoints on both sides, over
one denominator. -/
structure Interval where
  value : Nat
  below : Nat
  above : Nat
  denominator : Nat
  closed : Bool

/-- The reals that read back as `mantissa * 2 ^ exponent`. Below the least
mantissa of 53 bits the neighbours stand half as far away. -/
def readBack (mantissa : Nat) (exponent : Int) : Interval :=
  let narrow := mantissa == Nat.pow 2 52 && leastExponent < exponent
  let unit := if 0 ≤ exponent then Nat.pow 2 exponent.toNat else 1
  { value := 4 * mantissa * unit
    below := (if narrow then 1 else 2) * unit
    above := 2 * unit
    denominator := 4 * (if 0 ≤ exponent then 1 else Nat.pow 2 (-exponent).toNat)
    closed := mantissa % 2 == 0 }

/-- Whether `count * step / grid` lies in the interval, where `step / grid` is one
unit of a decimal grid. -/
def Interval.holds (interval : Interval) (count step grid : Nat) : Bool :=
  let candidate := count * step * interval.denominator
  let low := (interval.value - interval.below) * grid
  let high := (interval.value + interval.above) * grid
  if interval.closed then low ≤ candidate && candidate ≤ high
  else low < candidate && candidate < high

/-- The number of digits that always suffice. -/
def mostDigits : Nat := 17

/-- The first decimal grid, from `digits` digits on, with a point in the
interval: the count on that grid and its power of ten. Of two such counts the
nearer is taken, and the even one from halfway. -/
def findShortest (interval : Interval) (point : Int) : Nat -> Nat -> Nat × Int
  | 0, digits =>
      let power := point - digits
      let (scaledValue, scaledUnit) := scaleTen interval.value interval.denominator power
      (roundHalfEven scaledValue scaledUnit, power)
  | fuel + 1, digits =>
      let power := point - digits
      let (scaledValue, scaledUnit) := scaleTen interval.value interval.denominator power
      let (step, grid) := scaleTen 1 1 (-power)
      let lower := scaledValue / scaledUnit
      let nearest := roundHalfEven scaledValue scaledUnit
      let other := if nearest = lower then lower + 1 else lower
      if interval.holds nearest step grid then (nearest, power)
      else if interval.holds other step grid then (other, power)
      else findShortest interval point fuel (digits + 1)

/-- The place of the decimal point of a positive fraction: the least power of ten
above it, found upwards from an estimate that is not too large. -/
def pointOf (numerator denominator : Nat) : Nat -> Int -> Int
  | 0, estimate => estimate
  | fuel + 1, estimate =>
      let (scaledNumerator, scaledDenominator) := scaleTen numerator denominator estimate
      if scaledNumerator < scaledDenominator then estimate
      else pointOf numerator denominator fuel (estimate + 1)

/-- The shortest digits of a positive number `mantissa * 2 ^ exponent`. -/
def shortest (mantissa : Nat) (exponent : Int) : DecimalText :=
  let interval := readBack mantissa exponent
  let bits : Int := (mantissa.log2 : Int) + exponent
  let estimate := Int.fdiv (bits * 30103) 100000 - 1
  let point := pointOf interval.value interval.denominator 4 estimate
  let (count, power) := findShortest interval point (mostDigits - 1) 1
  let all := (Nat.repr count).toList
  let kept := (all.reverse.dropWhile (· == '0')).reverse
  { digits := kept
    point := power + all.length }

/-- Decimal digits with the point in place. -/
def DecimalText.positional (text : DecimalText) : List Char :=
  let count : Int := text.digits.length
  if text.point ≤ 0 then
    '0' :: '.' :: List.replicate (-text.point).toNat '0' ++ text.digits
  else if count ≤ text.point then
    text.digits ++ List.replicate (text.point - count).toNat '0' ++ ['.', '0']
  else text.digits.take text.point.toNat ++ '.' :: text.digits.drop text.point.toNat

/-- Decimal digits with one digit before the point and an exponent. -/
def DecimalText.scientific (text : DecimalText) : List Char :=
  let power := text.point - 1
  let magnitude := (Nat.repr power.natAbs).toList
  let padded := if magnitude.length < 2 then '0' :: magnitude else magnitude
  let body :=
    match text.digits with
    | [] => []
    | [digit] => [digit]
    | digit :: rest => digit :: '.' :: rest
  body ++ 'e' :: (if power < 0 then '-' else '+') :: padded

/-- The text of a number. -/
def text : Binary64 -> String
  | .nan => "nan"
  | .infinite negative => if negative then "-inf" else "inf"
  | .finite negative mantissa exponent =>
      let body :=
        if mantissa = 0 then ['0', '.', '0']
        else
          let digits := shortest mantissa exponent
          if -3 ≤ digits.point ∧ digits.point ≤ 16 then digits.positional
          else digits.scientific
      String.ofList (if negative then '-' :: body else body)

end Binary64
end Concordance
