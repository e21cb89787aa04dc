import Concordance.Journal
import Concordance.Session.State

/-!
# Running a search

A search is run in two sections, with the request to the backend between them.
The first makes the search active; the second takes the answer, or drops it when a
newer search or a reset came in between. Each section is a function on the state;
other sections may run between the two.

A call that is refused changes nothing.
-/

namespace Concordance
namespace Session

/-- Why a call was refused before anything happened. -/
inductive CallError
  | page (given : Int)
  | texts (cause : CoercionError)
  | unsupported
  | compile (cause : CompileError)
  deriving DecidableEq, Repr

/-- The wording of a refusal. -/
def CallError.message : CallError -> String
  | .page given => (CompileError.page given).message
  | .texts cause => cause.message
  | .unsupported => "replace() should be called on dataclass instances"
  | .compile cause => cause.message

/-- The query for the batch that begins at a rank. -/
def batchQuery (setup : Setup) (search : Search) (batchStart : Nat) :
    Except CompileError Query :=
  Query.compile setup.layout search (setup.paging.batchPage batchStart)
    setup.paging.batchSize setup.paging.pageSize

/-- The page that a number names. -/
def checkPage (page : Int) : Except CallError Nat :=
  if page < 1 then .error (.page page) else .ok page.toNat

/-- The query for the batch that holds a page. -/
def pageQuery (setup : Setup) (search : Search) (page : Int) : Except CallError Query := do
  let page <- checkPage page
  let batchStart := setup.paging.batchStart (setup.paging.pageStart page)
  (batchQuery setup search batchStart).mapError .compile

/-- A search with the texts it is restricted to, where any are given. -/
def restrict (search : Search) : Option Value -> Except CallError Search
  | none => .ok search
  | some texts => do
      let ids <- texts.toIntegers.mapError .texts
      match search.restrictTo? ids with
      | some restricted => .ok restricted
      | none => .error .unsupported

/-- The hits of an answer under the ranks of its batch, in a cache: no more than a
batch, and none beyond the window. -/
def writeBatch (paging : Paging) (cache : Cache) (batchStart : Nat) (hits : List Hit) : Cache :=
  cache.overlay batchStart (hits.take (min paging.batchSize (paging.window - batchStart)))

/-- The hits of a page that are in a cache. -/
def pageHits (paging : Paging) (cache : Cache) (page : Nat) : List Hit :=
  cache.slice (paging.pageStart page) paging.pageSize

/-- A search that waits for its answer. -/
structure SearchCall where
  generation : Nat
  search : Search
  page : Nat
  batchStart : Nat
  query : Query

namespace SearchCall

/-- The note at the beginning of a search. -/
def startNote (call : SearchCall) : Record :=
  .info (s!"Search started: mode={call.search.mode} page={call.page}" ++
    s!" from={call.query.offset} size={call.query.size}")

end SearchCall

namespace State

variable {ε : Type}

/-- Make a search active and show that it runs. -/
def beginSearch
    (setup : Setup)
    (state : State ε)
    (search : Search)
    (texts : Option Value)
    (page : Int) :
    Except CallError (State ε × SearchCall) := do
  let number <- checkPage page
  let active <- restrict search texts
  let query <- pageQuery setup active page
  let generation := state.generation + 1
  pure
    ({ state with
        generation
        pageRequest := state.pageRequest + 1
        search := some active
        isSearching := true
        isChangingPage := false
        hasSearched := true
        lastError := none
        status := .searching },
      { generation
        search := active
        page := number
        batchStart := setup.paging.batchStart (setup.paging.pageStart number)
        query })

/-- Take the failure of a search. -/
def failSearch [Worded ε] (state : State ε) (call : SearchCall) (failure : ε) :
    State ε × List Record :=
  if call.generation = state.generation then
    ({ state with
        cache := .empty
        displayed := []
        total := 0
        lastError := some failure
        isSearching := false
        status := .failed },
      [.error s!"Search failed: {Worded.message failure}"])
  else
    (state, [.debug s!"Dropping failure of superseded search (generation={call.generation})"])

/-- Take the hits of a search: they replace the cache, and the page is shown. -/
def completeSearch (setup : Setup) (state : State ε) (call : SearchCall) (batch : Batch) :
    State ε × List Record :=
  if call.generation = state.generation then
    let cache := writeBatch setup.paging .empty call.batchStart batch.hits
    ({ state with
        cache
        total := batch.total
        displayed := pageHits setup.paging cache call.page
        page := call.page
        searchQuery := call.search.simpleText?.getD state.searchQuery
        isSearching := false
        status := .ready },
      [.info (s!"Search completed: total={batch.total} fetched={batch.hits.length}" ++
        s!" page={call.page}")])
  else
    (state, [.debug s!"Dropping result of superseded search (generation={call.generation})"])

/-- Take the answer to a search. -/
def finishSearch [Worded ε] (setup : Setup) (state : State ε) (call : SearchCall) :
    Except ε Batch -> State ε × List Record
  | .error failure => state.failSearch call failure
  | .ok batch => state.completeSearch setup call batch

end State
end Session
end Concordance
