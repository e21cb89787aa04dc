import Concordance.Text.Pieces
import Concordance.TextIds

/-!
# Reading spelled text ids

A spelling by runs is cut at its commas; every part is a number or an ascending
pair of numbers, with blanks allowed around each. The result is the ascending
list of the distinct ids. A stricter check, without any blanks, says whether a
text has the shape of a spelling.
-/

namespace Concordance
namespace TextIds

/-- Why a spelling was refused. -/
inductive ReadingError
  | badPart (part : String)
  | descending (part : String)
  | numeral (cause : Numeral.IntegerError)
  deriving DecidableEq, Repr

/-- The wording of a refusal. -/
def ReadingError.message : ReadingError -> String
  | .badPart part => "Invalid text id range part: " ++ Text.quoted part
  | .descending part => "Range start is after its end: " ++ Text.quoted part
  | .numeral cause => cause.message

/-- The id that a number in a part spells: it has to consist of digit signs. -/
def readId (number part : List Char) : Except ReadingError Int :=
  let digits := Text.trim number
  if digits.isEmpty || !digits.all Text.isDigitSign then
    .error (.badPart (String.ofList part))
  else (Numeral.readInteger (String.ofList digits)).mapError .numeral

/-- The block that a trimmed part spells. -/
def readRun (part : List Char) : Except ReadingError Run :=
  match Text.cutFirst '-' part with
  | none => do
      let id <- readId part part
      pure ⟨id, id⟩
  | some (firstText, lastText) => do
      let first <- readId firstText part
      let last <- readId lastText part
      if last < first then throw (.descending (String.ofList part))
      pure ⟨first, last⟩

/-- The ids of a block, in ascending order. -/
def members (run : Run) : List Int :=
  (List.range (run.last + 1 - run.first).toNat).map fun (offset : Nat) => run.first + offset

/-- The ids that a spelling by runs stands for; a blank text stands for none. -/
def read (text : String) : Except ReadingError (List Int) :=
  let body := Text.trim text.toList
  if body.isEmpty then .ok []
  else do
    let blocks <- (Text.splitAt ',' body).mapM fun part => readRun (Text.trim part)
    pure (ascending (blocks.flatMap members))

/-- Whether a text is one or more decimal digits. -/
def isNumber (text : List Char) : Bool :=
  !text.isEmpty && text.all Text.isDecimal

/-- Whether a text is a number or two numbers around a dash. -/
def isRunShaped (text : List Char) : Bool :=
  match Text.splitAt '-' text with
  | [number] => isNumber number
  | [first, last] => isNumber first && isNumber last
  | _ => false

/-- A text without one line feed at its end. -/
def withoutFinalLineFeed (text : List Char) : List Char :=
  match text.reverse with
  | '\n' :: rest => rest.reverse
  | _ => text

/-- Whether a text has the shape of a spelling by runs; one line feed at its end
is allowed. -/
def isSpelling (text : String) : Bool :=
  (Text.splitAt ',' (withoutFinalLineFeed text.toList)).all isRunShaped

end TextIds
end Concordance
