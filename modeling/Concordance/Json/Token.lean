import Concordance.Numeral.Binary64
import Concordance.Numeral.Integer

/-!
# Tokens of JSON texts

The text is cut into punctuation, words, numbers and strings; spaces, tabs and
line ends between them are dropped. Beyond the standard, the words `NaN`,
`Infinity` and `-Infinity` are numbers, and a number is a fraction exactly when
it has a point or an exponent. A string holds no raw control character. An
integer of more digits than a numeral may have is refused.
-/

namespace Concordance
namespace Json

/-- A token. -/
inductive Token
  | openObject
  | closeObject
  | openArray
  | closeArray
  | colon
  | comma
  | null
  | bool (truth : Bool)
  | int (number : Int)
  | float (number : Binary64)
  | str (text : String)
  deriving DecidableEq

/-- The value of an ASCII digit. -/
def digitValue (character : Char) : Nat :=
  character.toNat - '0'.toNat

/-- The number that ASCII digits spell. -/
def digitsValue (digits : List Char) : Nat :=
  digits.foldl (fun value digit => 10 * value + digitValue digit) 0

/-- The value of a hexadecimal digit. -/
def hexValue? (character : Char) : Option Nat :=
  if character.isDigit then some (digitValue character)
  else if 'a' ≤ character && character ≤ 'f' then some (character.toNat - 'a'.toNat + 10)
  else if 'A' ≤ character && character ≤ 'F' then some (character.toNat - 'A'.toNat + 10)
  else none

/-- Four hexadecimal digits at the front of a text. -/
def readHex? : List Char -> Option (Nat × List Char)
  | first :: second :: third :: fourth :: rest => do
      let first <- hexValue? first
      let second <- hexValue? second
      let third <- hexValue? third
      let fourth <- hexValue? fourth
      pure (((first * 16 + second) * 16 + third) * 16 + fourth, rest)
  | _ => none

/-- The character behind an escaping backslash and one letter. -/
def simpleEscape? : Char -> Option Char
  | '"' => some '"'
  | '\\' => some '\\'
  | '/' => some '/'
  | 'b' => some '\x08'
  | 'f' => some '\x0c'
  | 'n' => some '\n'
  | 'r' => some '\r'
  | 't' => some '\t'
  | _ => none

/-- The character of two surrogate code units. -/
def joinSurrogates (high low : Nat) : Char :=
  Char.ofNat (0x10000 + (high - 0xD800) * 0x400 + (low - 0xDC00))

/-- The character of one code unit; a surrogate without its partner becomes the
replacement character. -/
def loneUnit (unit : Nat) : Char :=
  if 0xD800 ≤ unit && unit ≤ 0xDFFF then '\uFFFD' else Char.ofNat unit

/-- Read the inside of a string up to its closing quote. `reversed` holds the
characters read so far. -/
def readString? (reversed : List Char) : Nat -> List Char -> Option (String × List Char)
  | 0, _ => none
  | _ + 1, [] => none
  | _ + 1, '"' :: rest => some (String.ofList reversed.reverse, rest)
  | fuel + 1, '\\' :: 'u' :: rest =>
      match readHex? rest with
      | none => none
      | some (unit, afterUnit) =>
          let partner? :=
            match afterUnit with
            | '\\' :: 'u' :: next => readHex? next
            | _ => none
          match partner? with
          | some (partner, afterPartner) =>
              if 0xD800 ≤ unit && unit ≤ 0xDBFF && 0xDC00 ≤ partner && partner ≤ 0xDFFF then
                readString? (joinSurrogates unit partner :: reversed) fuel afterPartner
              else readString? (loneUnit unit :: reversed) fuel afterUnit
          | none => readString? (loneUnit unit :: reversed) fuel afterUnit
  | fuel + 1, '\\' :: letter :: rest =>
      match simpleEscape? letter with
      | some character => readString? (character :: reversed) fuel rest
      | none => none
  | fuel + 1, character :: rest =>
      if character.toNat < 0x20 || character == '\\' then none
      else readString? (character :: reversed) fuel rest

/-- The digits at the front of a text and the rest. -/
def spanDigits (text : List Char) : List Char × List Char :=
  (text.takeWhile Char.isDigit, text.dropWhile Char.isDigit)

/-- The digits behind a point; none where the text does not go on with a point
and a digit. -/
def readFraction (text : List Char) : List Char × List Char :=
  match text with
  | '.' :: rest =>
      let (digits, after) := spanDigits rest
      if digits.isEmpty then ([], text) else (digits, after)
  | _ => ([], text)

/-- The exponent; none where the text does not go on with one. -/
def readExponent? (text : List Char) : Option (Int × List Char) :=
  match text with
  | mark :: rest =>
      if mark = 'e' ∨ mark = 'E' then
        let (negative, body) := Numeral.splitSign rest
        let (digits, after) := spanDigits body
        if digits.isEmpty then none
        else
          let power : Int := digitsValue digits
          some (if negative then -power else power, after)
      else none
  | [] => none

/-- A number without its sign. -/
def readNumber? (negative : Bool) (text : List Char) : Option (Token × List Char) :=
  let whole? :=
    match text with
    | '0' :: rest => some (['0'], rest)
    | _ =>
        let (digits, after) := spanDigits text
        if digits.isEmpty then none else some (digits, after)
  match whole? with
  | none => none
  | some (whole, afterWhole) =>
      let (fraction, afterFraction) := readFraction afterWhole
      let exponent? := readExponent? afterFraction
      if fraction.isEmpty && exponent?.isNone then
        if Numeral.digitLimit < whole.length then none
        else
          let value : Int := digitsValue whole
          some (.int (if negative then -value else value), afterWhole)
      else
        let (power, rest) := exponent?.getD (0, afterFraction)
        some (.float (Binary64.ofDecimal negative (digitsValue (whole ++ fraction))
          (power - fraction.length)), rest)

/-- The text behind a word at its front. -/
def afterWord? (word : String) (text : List Char) : Option (List Char) :=
  if word.toList.isPrefixOf text then some (text.drop word.length) else none

/-- The token at the front of a text that does not begin with a space. -/
def readToken? (text : List Char) : Option (Token × List Char) :=
  match text with
  | [] => none
  | '{' :: rest => some (.openObject, rest)
  | '}' :: rest => some (.closeObject, rest)
  | '[' :: rest => some (.openArray, rest)
  | ']' :: rest => some (.closeArray, rest)
  | ':' :: rest => some (.colon, rest)
  | ',' :: rest => some (.comma, rest)
  | '"' :: rest => (readString? [] (rest.length + 1) rest).map fun (text, rest) => (.str text, rest)
  | 'n' :: _ => (afterWord? "null" text).map fun rest => (.null, rest)
  | 't' :: _ => (afterWord? "true" text).map fun rest => (.bool true, rest)
  | 'f' :: _ => (afterWord? "false" text).map fun rest => (.bool false, rest)
  | 'N' :: _ => (afterWord? "NaN" text).map fun rest => (.float .nan, rest)
  | 'I' :: _ => (afterWord? "Infinity" text).map fun rest => (.float (.infinite false), rest)
  | '-' :: rest =>
      match afterWord? "Infinity" rest with
      | some rest => some (.float (.infinite true), rest)
      | none => readNumber? true rest
  | _ => readNumber? false text

/-- Whether a character may stand between tokens. -/
def isSpace (character : Char) : Bool :=
  character == ' ' || character == '\t' || character == '\n' || character == '\r'

/-- The tokens of a text; `reversed` holds those read so far. Every token takes a
character, so the length of the text bounds their number. -/
def readTokens? (reversed : List Token) : Nat -> List Char -> Option (List Token)
  | 0, text => if (text.dropWhile isSpace).isEmpty then some reversed.reverse else none
  | fuel + 1, text =>
      let text := text.dropWhile isSpace
      if text.isEmpty then some reversed.reverse
      else
        match readToken? text with
        | none => none
        | some (token, rest) => readTokens? (token :: reversed) fuel rest

/-- The tokens of a text; none when it cannot be cut into tokens. -/
def Token.scan? (text : String) : Option (List Token) :=
  readTokens? [] text.length text.toList

end Json
end Concordance
