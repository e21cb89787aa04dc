import Concordance.Entries
import Concordance.Numeral.Binary64

/-!
# Dynamic values

The values that responses, settings files and link requests are made of: no
value, truth values, integers of any size, binary fractions, texts, lists,
objects with their entries in order, and calendar dates.
-/

namespace Concordance

/-- A dynamic value. -/
inductive Value
  | null
  | bool (truth : Bool)
  | int (number : Int)
  | float (number : Binary64)
  | str (text : String)
  | list (items : List Value)
  | obj (entries : List (String × Value))
  | date (year month day : Nat)
  deriving Inhabited

namespace Value

/-- The name of a value's kind. -/
def kindName : Value -> String
  | .null => "NoneType"
  | .bool _ => "bool"
  | .int _ => "int"
  | .float _ => "float"
  | .str _ => "str"
  | .list _ => "list"
  | .obj _ => "dict"
  | .date .. => "date"

/-- Whether a value counts as absent where a default may take its place. -/
def isEmpty : Value -> Bool
  | .null => true
  | .bool truth => !truth
  | .int number => number == 0
  | .float number => number.isZero
  | .str text => text.isEmpty
  | .list items => items.isEmpty
  | .obj entries => entries.isEmpty
  | .date .. => false

/-- The entries of an object. -/
def entries? : Value -> Option (Entries Value)
  | .obj entries => some entries
  | _ => none

/-- The value under a key of an object; no value where the key is missing. -/
def field (entries : Entries Value) (key : String) : Value :=
  (entries.get? key).getD .null

@[simp] theorem entries?_obj (entries : Entries Value) :
    entries? (.obj entries) = some entries := rfl

end Value
end Concordance
