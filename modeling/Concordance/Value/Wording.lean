import Concordance.Numeral.Integer
import Concordance.Numeral.Shortest
import Concordance.Value

/-!
# The wording of values

A value is worded for messages and lists: a text stands as it is, and inside a
list or an object it is quoted. Items and entries are separated by a comma and a
space.
-/

namespace Concordance
namespace Value

/-- Zero-padded decimal digits. -/
def padded (width number : Nat) : String :=
  let digits := (Nat.repr number).toList
  String.ofList (List.replicate (width - digits.length) '0' ++ digits)

/-- The wording of a date: year, month and day. -/
def dateText (year month day : Nat) : String :=
  padded 4 year ++ "-" ++ padded 2 month ++ "-" ++ padded 2 day

mutual

/-- The wording of a value inside another. -/
def inner : Value -> String
  | .null => "None"
  | .bool true => "True"
  | .bool false => "False"
  | .int number => Numeral.spell number
  | .float number => number.text
  | .str text => Text.quoted text
  | .list items => "[" ++ ", ".intercalate (innerItems items) ++ "]"
  | .obj entries => "\x7b" ++ ", ".intercalate (innerEntries entries) ++ "\x7d"
  | .date year month day =>
      "datetime.date(" ++ Nat.repr year ++ ", " ++ Nat.repr month ++ ", " ++
        Nat.repr day ++ ")"

/-- The wordings of the items of a list. -/
def innerItems : List Value -> List String
  | [] => []
  | item :: items => inner item :: innerItems items

/-- The wordings of the entries of an object. -/
def innerEntries : List (String × Value) -> List String
  | [] => []
  | (key, value) :: entries =>
      (Text.quoted key ++ ": " ++ inner value) :: innerEntries entries

end

/-- The wording of a value on its own. -/
def wording : Value -> String
  | .str text => text
  | .date year month day => dateText year month day
  | value => inner value

@[simp] theorem wording_str (text : String) : wording (.str text) = text := rfl

end Value
end Concordance
