import Concordance.Text.Blank
import Concordance.Text.Digit
import Concordance.Text.Quoted

/-!
# Integer numerals

An integer numeral is an optional sign and decimal digits of any scripts, with
single underscores allowed between digits; blanks around it are ignored, except
the four information separators, which are no part of a numeral. A numeral of
more than 4300 digits is refused by its length.
-/

namespace Concordance
namespace Numeral

/-- The most digits that a numeral may have. -/
def digitLimit : Nat := 4300

/-- Why a text was refused as an integer. -/
inductive IntegerError
  | malformed (text : String)
  | tooLong (digits : Nat)
  deriving DecidableEq, Repr

/-- The wording of a refusal. -/
def IntegerError.message : IntegerError -> String
  | .malformed text => "invalid literal for int() with base 10: " ++ Text.quoted text
  | .tooLong digits =>
      s!"Exceeds the limit ({digitLimit} digits) for integer string conversion: " ++
        s!"value has {digits} digits; use sys.set_int_max_str_digits() to increase the limit"

/-- The blanks that may stand around a numeral. -/
def isMargin (character : Char) : Bool :=
  Text.isBlank character && !(0x1C ≤ character.toNat && character.toNat ≤ 0x1F)

/-- Drop the blanks around a numeral. -/
def trimMargins (text : List Char) : List Char :=
  ((text.dropWhile isMargin).reverse.dropWhile isMargin).reverse

/-- Read the digits at the front of a text: their value, their number, and the
rest. `afterDigit` says whether a digit stands right before; an underscore has to
stand between two digits. -/
def readDigits
    (value count : Nat)
    (afterDigit : Bool) :
    List Char -> Option (Nat × Nat × List Char)
  | [] => if afterDigit then some (value, count, []) else none
  | character :: rest =>
      match Text.decimalValue? character with
      | some digit => readDigits (10 * value + digit) (count + 1) true rest
      | none =>
          if !afterDigit then none
          else if character = '_' then readDigits value count false rest
          else some (value, count, character :: rest)

/-- Split off the sign; true means minus. -/
def splitSign : List Char -> Bool × List Char
  | '-' :: rest => (true, rest)
  | '+' :: rest => (false, rest)
  | text => (false, text)

/-- The integer that a numeral spells. -/
def readInteger (text : String) : Except IntegerError Int :=
  let (negative, body) := splitSign (trimMargins text.toList)
  match readDigits 0 0 false body with
  | none => .error (.malformed text)
  | some (value, count, rest) =>
      if digitLimit < count then .error (.tooLong count)
      else if !rest.isEmpty then .error (.malformed text)
      else .ok (if negative then -(value : Int) else value)

/-- The decimal numeral of an integer. -/
def spell (number : Int) : String :=
  match number with
  | .ofNat value => Nat.repr value
  | .negSucc value => "-" ++ Nat.repr (value + 1)

@[simp] theorem spell_natCast (value : Nat) : spell (value : Int) = Nat.repr value := rfl

end Numeral
end Concordance
