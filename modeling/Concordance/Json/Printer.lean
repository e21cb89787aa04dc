import Concordance.Numeral.Integer
import Concordance.Numeral.Shortest
import Concordance.Value

/-!
# Printed JSON

Arrays and objects are printed with one item or entry on a line, indented by two
spaces for each level; empty ones stay on their line. Only quotes, backslashes
and control characters below the space are escaped. A second form stands on one
line and holds ASCII characters alone.
-/

namespace Concordance
namespace Json

/-- The last four hexadecimal digits of a code, in lower case. -/
def fourHexDigits (code : Nat) : List Char :=
  [code / 4096, code / 256, code / 16, code].map fun part => Nat.digitChar (part % 16)

/-- A character as it stands inside a string. -/
def escaped (character : Char) : List Char :=
  if character = '"' then ['\\', '"']
  else if character = '\\' then ['\\', '\\']
  else if character = '\n' then ['\\', 'n']
  else if character = '\r' then ['\\', 'r']
  else if character = '\t' then ['\\', 't']
  else if character = '\x08' then ['\\', 'b']
  else if character = '\x0c' then ['\\', 'f']
  else if character.toNat < 0x20 then '\\' :: 'u' :: fourHexDigits character.toNat
  else [character]

/-- A text as a JSON string. -/
def stringLiteral (text : String) : String :=
  "\"" ++ String.ofList (text.toList.flatMap escaped) ++ "\""

/-- A fraction as a JSON number, the special ones by their words. -/
def floatLiteral : Binary64 -> String
  | .nan => "NaN"
  | .infinite false => "Infinity"
  | .infinite true => "-Infinity"
  | number => number.text

/-- A line end and the indentation of a level. -/
def lineStart (level : Nat) : String :=
  "\n" ++ String.ofList (List.replicate (2 * level) ' ')

mutual

/-- A value printed at a level. -/
def printAt (level : Nat) : Value -> String
  | .null => "null"
  | .bool truth => if truth then "true" else "false"
  | .int number => Numeral.spell number
  | .float number => floatLiteral number
  | .str text => stringLiteral text
  | .list [] => "[]"
  | .list items =>
      "[" ++ ",".intercalate (printItems (level + 1) items) ++ lineStart level ++ "]"
  | .obj [] => "\x7b\x7d"
  | .obj entries =>
      "\x7b" ++ ",".intercalate (printEntries (level + 1) entries) ++ lineStart level ++ "\x7d"
  | .date .. => "null"

/-- The items of an array, each on a line of its own. -/
def printItems (level : Nat) : List Value -> List String
  | [] => []
  | item :: items => (lineStart level ++ printAt level item) :: printItems level items

/-- The entries of an object, each on a line of its own. -/
def printEntries (level : Nat) : List (String × Value) -> List String
  | [] => []
  | (key, value) :: entries =>
      (lineStart level ++ stringLiteral key ++ ": " ++ printAt level value) ::
        printEntries level entries

end

/-- The printed form of a value. -/
def print (value : Value) : String :=
  printAt 0 value

/-- A string literal in which only ASCII characters stand; all others are escaped,
the rarer ones as two units. -/
def asciiLiteral (text : String) : String :=
  let unit (code : Nat) : List Char := '\\' :: 'u' :: fourHexDigits code
  let escape (character : Char) : List Char :=
    let code := character.toNat
    if code < 0x7F then escaped character
    else if code < 0x10000 then unit code
    else unit (0xD800 + (code - 0x10000) / 0x400) ++ unit (0xDC00 + (code - 0x10000) % 0x400)
  String.ofList ('"' :: text.toList.flatMap escape ++ ['"'])

mutual

/-- The form of a value on one line, in ASCII. -/
def printLine : Value -> String
  | .str text => asciiLiteral text
  | .list items => "[" ++ ",".intercalate (printLineItems items) ++ "]"
  | .obj entries => "\x7b" ++ ",".intercalate (printLineEntries entries) ++ "\x7d"
  | value => print value

/-- The items of an array, in ASCII. -/
def printLineItems : List Value -> List String
  | [] => []
  | item :: items => printLine item :: printLineItems items

/-- The entries of an object, in ASCII. -/
def printLineEntries : List (String × Value) -> List String
  | [] => []
  | (key, value) :: entries =>
      (asciiLiteral key ++ ":" ++ printLine value) :: printLineEntries entries

end

end Json
end Concordance
