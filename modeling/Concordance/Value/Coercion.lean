import Concordance.Value.Wording

/-!
# Loose integers and lists

Ids, slops and counters may arrive as integers, truth values, fractions or
numerals. A fraction loses its part behind the point; a numeral is read; nothing
else is an integer. A collection of ids may be a list, a text of one-character
items, or the keys of an object.
-/

namespace Concordance

/-- Why a value was refused as an integer or as a collection. -/
inductive CoercionError
  | numeral (cause : Numeral.IntegerError)
  | infinite
  | notANumber
  | wrongKind (kind : String)
  | notIterable (kind : String)
  deriving DecidableEq, Repr

/-- The wording of a refusal. -/
def CoercionError.message : CoercionError -> String
  | .numeral cause => cause.message
  | .infinite => "cannot convert float infinity to integer"
  | .notANumber => "cannot convert float NaN to integer"
  | .wrongKind kind =>
      s!"int() argument must be a string, a bytes-like object or a real number, not '{kind}'"
  | .notIterable kind => s!"'{kind}' object is not iterable"

namespace Value

/-- The integer that a value stands for. -/
def toInteger : Value -> Except CoercionError Int
  | .int number => .ok number
  | .bool truth => .ok (if truth then 1 else 0)
  | .float .nan => .error .notANumber
  | .float (.infinite _) => .error .infinite
  | .float number => .ok (number.truncate?.getD 0)
  | .str text => (Numeral.readInteger text).mapError .numeral
  | value => .error (.wrongKind value.kindName)

/-- The items of a collection. -/
def toItems : Value -> Except CoercionError (List Value)
  | .list items => .ok items
  | .str text => .ok (text.toList.map fun character => .str (String.singleton character))
  | .obj entries => .ok (entries.map fun entry => .str entry.1)
  | value => .error (.notIterable value.kindName)

/-- The integers that the items of a collection stand for, in order. -/
def toIntegers (value : Value) : Except CoercionError (List Int) :=
  value.toItems >>= fun items => items.mapM toInteger

@[simp] theorem toInteger_int (number : Int) : toInteger (.int number) = .ok number := rfl

end Value
end Concordance
