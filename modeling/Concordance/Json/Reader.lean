import Concordance.Json.Token
import Concordance.Value

/-!
# Values of JSON texts

Arrays and objects are read from the tokens. The value of a key that occurs
twice is the last one, in the place of the first.
-/

namespace Concordance
namespace Json

mutual

/-- The value at the front of the tokens. -/
def readValue? : Nat -> List Token -> Option (Value × List Token)
  | 0, _ => none
  | fuel + 1, tokens =>
      match tokens with
      | .null :: rest => some (.null, rest)
      | .bool truth :: rest => some (.bool truth, rest)
      | .int number :: rest => some (.int number, rest)
      | .float number :: rest => some (.float number, rest)
      | .str text :: rest => some (.str text, rest)
      | .openArray :: .closeArray :: rest => some (.list [], rest)
      | .openArray :: rest => readItems? fuel [] rest
      | .openObject :: .closeObject :: rest => some (.obj [], rest)
      | .openObject :: rest => readEntries? fuel [] rest
      | _ => none

/-- The items of an array up to its end; `reversed` holds those read so far. -/
def readItems? : Nat -> List Value -> List Token -> Option (Value × List Token)
  | 0, _, _ => none
  | fuel + 1, reversed, tokens =>
      match readValue? fuel tokens with
      | some (item, .comma :: rest) => readItems? fuel (item :: reversed) rest
      | some (item, .closeArray :: rest) => some (.list (item :: reversed).reverse, rest)
      | _ => none

/-- The entries of an object up to its end; `entries` holds those read so far. -/
def readEntries? : Nat -> Entries Value -> List Token -> Option (Value × List Token)
  | 0, _, _ => none
  | fuel + 1, entries, tokens =>
      match tokens with
      | .str key :: .colon :: afterColon =>
          match readValue? fuel afterColon with
          | some (value, .comma :: rest) => readEntries? fuel (entries.put key value) rest
          | some (value, .closeObject :: rest) => some (.obj (entries.put key value), rest)
          | _ => none
      | _ => none

end

/-- The value of a JSON text; none when the text is not JSON. An array or object
takes two steps for each of its tokens at most. -/
def read? (text : String) : Option Value :=
  match Token.scan? text with
  | none => none
  | some tokens =>
      match readValue? (2 * tokens.length + 2) tokens with
      | some (value, []) => some value
      | _ => none

end Json
end Concordance
