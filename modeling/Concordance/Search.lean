import Concordance.Search.Term

/-!
# Searches

A search asks for one term, for several terms in two groups, or for two terms
near each other, in all texts or in selected ones. A search of a kind that is
not known here can be named but not run.
-/

namespace Concordance

/-- What a search asks for. -/
inductive Question
  | simple (term : Term)
  | advanced (required alternatives : List Term)
  | proximity (first second : Term) (slop : Int)
  | unsupported (mode : String)
  deriving DecidableEq, Repr

/-- A question put to selected texts; no selection means the whole corpus. -/
structure Search where
  question : Question
  texts : List Int := []
  deriving DecidableEq, Repr

namespace Search

/-- The distance of two terms where none is given. -/
def defaultSlop : Int := 5

/-- The separator of terms in a link. -/
def termSeparator : Char := ','

/-- The name of the kind of search. -/
def mode (search : Search) : String :=
  match search.question with
  | .simple _ => "simple"
  | .advanced .. => "advanced"
  | .proximity .. => "proximity"
  | .unsupported mode => mode

/-- Whether the kind of search is known. -/
def isSupported (search : Search) : Bool :=
  match search.question with
  | .unsupported _ => false
  | _ => true

/-- The text that a simple search asks for. -/
def simpleText? (search : Search) : Option String :=
  match search.question with
  | .simple term => some term.text
  | _ => none

/-- The search restricted to other texts; none when its kind is not known. -/
def restrictTo? (search : Search) (texts : List Int) : Option Search :=
  if search.isSupported then some { search with texts } else none

end Search
end Concordance
