import Concordance.Json.Token
import Concordance.Numeral.Integer
import Concordance.Text.Pieces
import Concordance.Value

/-!
# The values of plain scalars

A plain scalar may be a truth value, no value, a number or a date; all others are
texts.

* An integer is decimal, octal behind a zero, binary behind `0b`, hexadecimal
  behind `0x`, or in parts to base 60, separated by colons. Underscores may stand
  among its digits.
* A fraction has a point; its exponent has a sign.
* A date is a year of four digits, a month and a day of two.
-/

namespace Concordance
namespace Yaml

/-- Why a text was refused. A text that is no settings text at all is malformed;
the others are well formed but hold an impossible number or date. -/
inductive Error
  | malformed
  | year (given : Nat)
  | month
  | day
  | noDigits (base : Nat)
  | numeral (cause : Numeral.IntegerError)
  deriving DecidableEq, Repr

/-- The wording of a refusal. -/
def Error.message : Error -> String
  | .malformed => "the text cannot be read"
  | .year given => s!"year {given} is out of range"
  | .month => "month must be in 1..12"
  | .day => "day is out of range for month"
  | .noDigits base => s!"invalid literal for int() with base {base}: ''"
  | .numeral cause => cause.message

namespace Scalar

/-- The three spellings of a word: small, capitalised, and in capitals. -/
structure Word where
  small : String
  capitalised : String
  capitals : String

/-- Whether a text is one of the spellings of a word. -/
def Word.matches (word : Word) (text : String) : Bool :=
  text = word.small || text = word.capitalised || text = word.capitals

/-- The words for truth values. -/
def truths : List (Word × Bool) := [
  (⟨"yes", "Yes", "YES"⟩, true), (⟨"no", "No", "NO"⟩, false),
  (⟨"true", "True", "TRUE"⟩, true), (⟨"false", "False", "FALSE"⟩, false),
  (⟨"on", "On", "ON"⟩, true), (⟨"off", "Off", "OFF"⟩, false)]

/-- The truth value of a word. -/
def truth? (text : String) : Option Bool :=
  (truths.find? fun entry => entry.1.matches text).map Prod.snd

/-- Whether a text stands for no value. -/
def isNull (text : String) : Bool :=
  text.isEmpty || text = "~" || Word.matches ⟨"null", "Null", "NULL"⟩ text

/-- Whether a character is a digit. -/
def isDigit (character : Char) : Bool := '0' ≤ character && character ≤ '9'

/-- Whether a text consists of characters of a class and underscores. -/
def consistsOf (isMember : Char -> Bool) (text : List Char) : Bool :=
  text.all fun character => character = '_' || isMember character

/-- A text without underscores. -/
def withoutUnderscores (text : List Char) : List Char := text.filter (· ≠ '_')

/-- Split off a sign; true means minus. -/
def splitSign : List Char -> Bool × List Char
  | '-' :: rest => (true, rest)
  | '+' :: rest => (false, rest)
  | text => (false, text)

/-- Whether a text is a part to base 60: one digit, or two below sixty. -/
def isSixtieth : List Char -> Bool
  | [digit] => isDigit digit
  | [tens, ones] => '0' ≤ tens && tens ≤ '5' && isDigit ones
  | _ => false

/-- The value of a digit in any base up to sixteen. -/
def digitValue (character : Char) : Nat :=
  if isDigit character then character.toNat - '0'.toNat
  else if 'a' ≤ character ∧ character ≤ 'f' then character.toNat - 'a'.toNat + 10
  else character.toNat - 'A'.toNat + 10

/-- The number that digits spell in a base. -/
def ofDigits (base : Nat) (digits : List Char) : Nat :=
  digits.foldl (fun value digit => base * value + digitValue digit) 0

/-- A number in a base that is marked in front. -/
def marked (base : Nat) (digits : List Char) : Except Error Nat :=
  if digits.isEmpty then .error (.noDigits base) else .ok (ofDigits base digits)

/-- A decimal number of bounded length. -/
def decimal (digits : List Char) : Except Error Nat :=
  if Numeral.digitLimit < digits.length then .error (.numeral (.tooLong digits.length))
  else .ok (ofDigits 10 digits)

/-- The parts of a text between colons. -/
def parts (text : List Char) : List (List Char) := Text.splitAt ':' text

/-- The magnitude of an integer without its sign, none when the text is no
integer. -/
def magnitude? (text : List Char) : Option (Except Error Nat) :=
  match text with
  | '0' :: 'b' :: rest =>
      if !rest.isEmpty && consistsOf (fun digit => digit = '0' || digit = '1') rest then
        some (marked 2 (withoutUnderscores rest))
      else none
  | '0' :: 'x' :: rest =>
      if !rest.isEmpty && consistsOf (fun digit => (Json.hexValue? digit).isSome) rest then
        some (marked 16 (withoutUnderscores rest))
      else none
  | '0' :: rest =>
      if consistsOf (fun digit => '0' ≤ digit && digit ≤ '7') rest then
        some (.ok (ofDigits 8 (withoutUnderscores rest)))
      else none
  | first :: _ =>
      if !isDigit first then none
      else
        match parts text with
        | [digits] =>
            if consistsOf isDigit digits then some (decimal (withoutUnderscores digits)) else none
        | head :: sixtieths =>
            if consistsOf isDigit head && sixtieths.all isSixtieth then
              some (do
                let head <- decimal (withoutUnderscores head)
                pure (sixtieths.foldl (fun value part => 60 * value + ofDigits 10 part) head))
            else none
        | [] => none
  | [] => none

/-- The integer that a text spells, none when it is no integer. -/
def integer? (text : List Char) : Option (Except Error Int) :=
  let (negative, body) := splitSign text
  (magnitude? body).map fun magnitude =>
    magnitude.map fun value => if negative then -(value : Int) else value

/-- The exponent behind a fraction: none when what stands there is no exponent. -/
def exponent? : List Char -> Option Int
  | [] => some 0
  | mark :: sign :: digits =>
      if (mark = 'e' ∨ mark = 'E') ∧ (sign = '+' ∨ sign = '-') ∧ !digits.isEmpty ∧
          digits.all isDigit then
        let value : Int := ofDigits 10 digits
        some (if sign = '-' then -value else value)
      else none
  | _ => none

/-- The fraction with digits before and behind the point. -/
def fraction (negative : Bool) (whole behind : List Char) (power : Int) : Binary64 :=
  let whole := withoutUnderscores whole
  let behind := withoutUnderscores behind
  Binary64.ofDecimal negative (ofDigits 10 (whole ++ behind)) (power - behind.length)

/-- Whether a text begins with a digit and goes on with digits and underscores. -/
def isDigitRun : List Char -> Bool
  | first :: rest => isDigit first && consistsOf isDigit rest
  | [] => false

/-- The fraction to base 60 of parts before the last one, each part weighing sixty
times the next; sums are rounded as they are made. -/
def sixtiethSum : List Binary64 -> Binary64
  | parts =>
      (parts.reverse.foldl
        (fun (sum, weight) part =>
          (Binary64.add sum (Binary64.timesNat part weight), weight * 60))
        (Binary64.signedZero false, 1)).1

/-- The fraction that a text spells, none when it is no fraction. -/
def fraction? (text : String) : Option Binary64 :=
  let (negative, body) := splitSign text.toList
  let isSigned := body.length < text.length
  if Word.matches ⟨".inf", ".Inf", ".INF"⟩ (String.ofList body) then some (.infinite negative)
  else if text = ".nan" ∨ text = ".NaN" ∨ text = ".NAN" then some .nan
  else
    match Text.cutFirst '.' body with
    | none => none
    | some (whole, rest) =>
        let isBehind (character : Char) : Bool := character = '_' || isDigit character
        let behind := rest.takeWhile isBehind
        let after := rest.dropWhile isBehind
        if whole.isEmpty then
          if isSigned || !isDigitRun behind then none
          else (exponent? after).map (fraction negative [] behind)
        else
          match parts whole with
          | [digits] =>
              if isDigitRun digits then (exponent? after).map (fraction negative digits behind)
              else none
          | head :: sixtieths =>
              if isDigitRun head && sixtieths.all isSixtieth && after.isEmpty then
                let wholes := (head :: sixtieths).dropLast.map fun part => fraction false part [] 0
                let last := fraction false (sixtieths.getLastD []) behind 0
                let sum := sixtiethSum (wholes ++ [last])
                some (if negative then sum.negate else sum)
              else none
          | [] => none

/-- The number of days of a month. -/
def monthLength (year month : Nat) : Nat :=
  if month = 2 then
    if year % 4 = 0 ∧ (year % 100 ≠ 0 ∨ year % 400 = 0) then 29 else 28
  else if month = 4 ∨ month = 6 ∨ month = 9 ∨ month = 11 then 30
  else 31

/-- The date that a text spells, none when it has not the form of a date. -/
def date? (text : List Char) : Option (Except Error Value) :=
  match text with
  | [y1, y2, y3, y4, '-', m1, m2, '-', d1, d2] =>
      if [y1, y2, y3, y4, m1, m2, d1, d2].all isDigit then
        let year := ofDigits 10 [y1, y2, y3, y4]
        let month := ofDigits 10 [m1, m2]
        let day := ofDigits 10 [d1, d2]
        some (
          if year = 0 then .error (.year year)
          else if month < 1 ∨ 12 < month then .error .month
          else if day < 1 ∨ monthLength year month < day then .error .day
          else .ok (.date year month day))
      else none
  | _ => none

/-- Whether a text is a sign of its own that stands for no value here. -/
def isReserved (text : String) : Bool :=
  text = "=" || text = "<<"

/-- The value of a plain scalar. -/
def value (text : String) : Except Error Value :=
  match truth? text with
  | some truth => .ok (.bool truth)
  | none =>
      match fraction? text with
      | some number => .ok (.float number)
      | none =>
          match integer? text.toList with
          | some number => number.map Value.int
          | none =>
              if isNull text then .ok .null
              else if isReserved text then .error .malformed
              else (date? text.toList).getD (.ok (.str text))

end Scalar
end Yaml
end Concordance
