import Concordance.Numeral.Integer
import Concordance.Search
import Concordance.Text.Blank

/-!
# Well-shaped searches

A search is well shaped when every term has a word, an advanced search has two
to five required terms and none or two to five alternatives without commas, a
proximity search has single words and a slop from one to ten, and no text id is
negative. The first rule that fails is reported.
-/

namespace Concordance

/-- The first rule of a well-shaped search that fails. -/
inductive ShapeError
  | emptyTerm (label : String)
  | manyWords (label : String)
  | groupSize (group : Group) (size : Nat)
  | separatorInTerm (label : String)
  | slop (given : Int)
  | negativeText
  | unsupported
  deriving DecidableEq, Repr

namespace Search

/-- The least and the greatest number of terms in a group. -/
def groupSizes : Nat × Nat := (2, 5)

/-- The least and the greatest slop. -/
def slopBounds : Int × Int := (1, 10)

end Search

/-- The wording of a failed rule. -/
def ShapeError.message : ShapeError -> String
  | .emptyTerm label => s!"{label} must not be empty"
  | .manyWords label => s!"proximity {label} must be a single word"
  | .groupSize group size =>
      s!"{group.tag} group needs {Search.groupSizes.1}-{Search.groupSizes.2} terms, got {size}"
  | .separatorInTerm label =>
      s!"{label} must not contain {Text.quoted (String.singleton Search.termSeparator)}"
  | .slop given =>
      s!"slop must be between {Search.slopBounds.1} and {Search.slopBounds.2}, got {given}"
  | .negativeText => "selected text ids must be non-negative"
  | .unsupported => "Unsupported search config: UnknownConfig"

namespace Search

/-- Whether a term has no word. -/
def isBlankTerm (term : Term) : Bool :=
  (Text.trim term.text.toList).isEmpty

/-- A term has to have a word. -/
def checkTerm (label : String) (term : Term) : Except ShapeError Unit :=
  if isBlankTerm term then .error (.emptyTerm label) else .ok ()

/-- The terms of a group, counted from `position`, have words and no separator. -/
def checkGroupTerms (group : Group) (position : Nat) : List Term -> Except ShapeError Unit
  | [] => .ok ()
  | term :: rest => do
      let label := s!"{group.tag} term {position}"
      checkTerm label term
      if term.text.toList.contains termSeparator then throw (.separatorInTerm label)
      checkGroupTerms group (position + 1) rest

/-- A group has a fitting number of terms, and all of them fit. -/
def checkGroup (group : Group) (terms : List Term) : Except ShapeError Unit := do
  if terms.length < groupSizes.1 ∨ groupSizes.2 < terms.length then
    throw (.groupSize group terms.length)
  checkGroupTerms group 1 terms

/-- A term of a proximity search is a single word. -/
def checkWord (label : String) (term : Term) : Except ShapeError Unit := do
  checkTerm label term
  if 1 < (Text.words term.text.toList).length then throw (.manyWords label)

/-- The rules on what is asked for. -/
def checkQuestion : Question -> Except ShapeError Unit
  | .simple term => checkTerm "term" term
  | .advanced required alternatives => do
      checkGroup .required required
      if !alternatives.isEmpty then checkGroup .alternative alternatives
  | .proximity first second slop => do
      checkWord "first term" first
      checkWord "second term" second
      if slop < slopBounds.1 ∨ slopBounds.2 < slop then throw (.slop slop)
  | .unsupported _ => .error .unsupported

/-- All rules on a search, in order. -/
def check (search : Search) : Except ShapeError Unit := do
  checkQuestion search.question
  if search.texts.any (· < 0) then throw .negativeText

end Search
end Concordance
