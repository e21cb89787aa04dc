import Concordance.Value.Wording
import Concordance.Yaml.Node
import Concordance.Yaml.Scalar

/-!
# Settings texts

A settings text is read as one value: its document with all plain scalars
replaced by what they stand for. Keys are scalars; a key that stands twice has its
last value in its first place.
-/

namespace Concordance
namespace Yaml

/-- The name that a key stands for: the wording of a scalar. An equals sign is
reserved as a value, not as a key. -/
def keyName : Node -> Except Error String
  | .scalar text isPlain =>
      if isPlain && text != "=" then (Scalar.value text).map Value.wording else .ok text
  | _ => .error .malformed

mutual

/-- The value of a node. -/
def valueOf : Node -> Except Error Value
  | .scalar text true => Scalar.value text
  | .scalar text false => .ok (.str text)
  | .sequence items => (itemsOf items).map Value.list
  | .mapping entries => (entriesOf [] entries).map Value.obj

/-- The values of the items of a sequence. -/
def itemsOf : List Node -> Except Error (List Value)
  | [] => .ok []
  | item :: rest => do
      let value <- valueOf item
      let values <- itemsOf rest
      pure (value :: values)

/-- The entries of a mapping, put behind entries that are there already. -/
def entriesOf (entries : Entries Value) : List (Node × Node) -> Except Error (Entries Value)
  | [] => .ok entries
  | (key, node) :: rest => do
      let name <- keyName key
      let value <- valueOf node
      entriesOf (entries.put name value) rest

end

/-- The value of a text; no value where it holds no document. -/
def read (text : String) : Except Error Value :=
  match Token.scan? text with
  | none => .error .malformed
  | some tokens =>
      match Node.readDocument? tokens with
      | none => .error .malformed
      | some none => .ok .null
      | some (some node) => valueOf node

end Yaml
end Concordance
