import Concordance.Text.Printable

/-!
# Quoted texts

A quoted text stands between single quotes, or between double quotes when it
holds a single quote and no double one. The backslash and the quote in use are
escaped by a backslash; line feed, carriage return and tab have short escapes;
any other character that is not printable is written by its code point in two,
four or eight hexadecimal digits.
-/

namespace Concordance
namespace Text

/-- The hexadecimal digit of a value below sixteen. -/
def hexDigit (value : Nat) : Char :=
  if value < 10 then Char.ofNat ('0'.toNat + value) else Char.ofNat ('a'.toNat + value - 10)

/-- The last `width` hexadecimal digits of a number. -/
def hexDigits : Nat -> Nat -> List Char
  | 0, _ => []
  | width + 1, value => hexDigits width (value / 16) ++ [hexDigit (value % 16)]

/-- The escape of a character by its code point, in the least of the three
widths that holds it. -/
def codePointEscape (character : Char) : List Char :=
  let code := character.toNat
  if code < 0x100 then '\\' :: 'x' :: hexDigits 2 code
  else if code < 0x10000 then '\\' :: 'u' :: hexDigits 4 code
  else '\\' :: 'U' :: hexDigits 8 code

/-- A character as it stands inside a text quoted by `quote`. -/
def quotedCharacter (quote character : Char) : List Char :=
  if character = quote ∨ character = '\\' then ['\\', character]
  else if character = '\n' then ['\\', 'n']
  else if character = '\r' then ['\\', 'r']
  else if character = '\t' then ['\\', 't']
  else if isPrintable character then [character]
  else codePointEscape character

/-- The quote that a text is given. -/
def quoteFor (text : List Char) : Char :=
  if text.contains '\'' && !text.contains '"' then '"' else '\''

/-- A text in quotes. -/
def quoted (text : String) : String :=
  let characters := text.toList
  let quote := quoteFor characters
  String.ofList (quote :: characters.flatMap (quotedCharacter quote) ++ [quote])

end Text
end Concordance
