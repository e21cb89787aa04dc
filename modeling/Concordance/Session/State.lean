import Concordance.Query.Compile
import Concordance.Search
import Concordance.Session.Cache
import Concordance.Session.DateRange
import Concordance.Session.Paging
import Concordance.TextIds
import Concordance.Value.Coercion

/-!
# The state of a session

A session runs one user's searches. It keeps the search that is active, the hits
that were fetched for it, the page on display, what went wrong last, and the
user's selections.

Two counters tell late answers from current ones: the generation counts searches
and resets, the page request counts these and the page changes.
-/

namespace Concordance
namespace Session

/-- What a session is doing, or how its last search or page change ended. -/
inductive Status
  | idle
  | searching
  | ready
  | failed
  | changingPage
  | pageFailed
  deriving DecidableEq, Repr

/-- The name of a status. -/
def Status.name : Status -> String
  | .idle => "idle"
  | .searching => "searching"
  | .ready => "ready"
  | .failed => "failed"
  | .changingPage => "changing_page"
  | .pageFailed => "page_failed"

/-- What stays the same throughout a session. -/
structure Setup where
  paging : Paging
  layout : Layout := {}

/-- The state of a session whose requests can fail with `ε`. -/
structure State (ε : Type) where
  generation : Nat := 0
  pageRequest : Nat := 0
  search : Option Search := none
  cache : Cache := .empty
  displayed : List Hit := []
  total : Int := 0
  page : Nat := 1
  status : Status := .idle
  isSearching : Bool := false
  isChangingPage : Bool := false
  hasSearched : Bool := false
  lastError : Option ε := none
  searchQuery : String := ""
  texts : List Int := []
  textFilter : String := ""
  genres : List String := []
  collections : List String := []
  dates : DateRange

/-- The number of pages is beyond all binary fractions. -/
structure TotalPagesError where
  deriving DecidableEq, Repr

/-- The wording of a refusal. -/
def TotalPagesError.message (_ : TotalPagesError) : String :=
  "integer division result too large for a float"

namespace State

variable {ε : Type}

/-- The state of a new session. -/
def initial (least greatest : Int) : State ε :=
  { dates := .whole least greatest }

/-- The state after a reset: a new one, except that answers to earlier calls are
told apart and the date bounds stay. -/
def reset (state : State ε) : State ε :=
  { generation := state.generation + 1
    pageRequest := state.pageRequest + 1
    dates := state.dates.full }

/-- Forget the selected texts. -/
def resetSelection (state : State ε) : State ε :=
  { state with texts := [] }

/-- Select texts, given in any order and with repeats. -/
def selectTexts (state : State ε) (texts : Value) : Except CoercionError (State ε) :=
  texts.toIntegers.map fun texts => { state with texts := TextIds.ascending texts }

/-- Set the filter of texts. -/
def setTextFilter (state : State ε) (textFilter : String) : State ε :=
  { state with textFilter }

/-- Select genres. -/
def setGenres (state : State ε) (genres : List String) : State ε :=
  { state with genres }

/-- Select collections. -/
def setCollections (state : State ε) (collections : List String) : State ε :=
  { state with collections }

/-- Select a window of dates. -/
def setDateRange (state : State ε) (start finish : Int) :
    Except DateRangeError (State ε) :=
  (state.dates.select start finish).map fun dates => { state with dates }

/-- The number of pages of all hits, rounded up from the quotient as a binary
fraction. -/
def totalPages (setup : Setup) (state : State ε) : Except TotalPagesError Int :=
  let quotient? :=
    Binary64.ofRatio? (state.total < 0) state.total.natAbs setup.paging.pageSize
  match quotient? with
  | none => .error {}
  | some quotient => .ok (quotient.ceiling?.getD 0)

end State

/-- The note of a reset. -/
def resetNote : String := "Search session reset"

end Session
end Concordance
