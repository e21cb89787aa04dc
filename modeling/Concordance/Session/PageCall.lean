import Concordance.Session.SearchCall

/-!
# Changing the page

A page whose first hit is in the cache is shown from there; otherwise its batch is
fetched first. A page change runs in up to four sections: it begins, takes the
answer where it had to ask, shows the page, and settles. Other sections may run
between any two of these.

An answer that comes after a newer search or a reset is dropped. A page change
that is no longer the newest one still brings its hits into the cache, but shows
and settles nothing.
-/

namespace Concordance
namespace Session

/-- A page change under way, with the search whose hits have to be fetched. -/
structure PageCall where
  generation : Nat
  request : Nat
  page : Nat
  target : Option Search

/-- What became of the answer to a page change. -/
inductive Arrival
  | stored
  | superseded
  | failed
  deriving DecidableEq, Repr

namespace PageCall

/-- The batch that holds the page. -/
def batchStart (setup : Setup) (call : PageCall) : Nat :=
  setup.paging.batchStart (setup.paging.pageStart call.page)

/-- The query that has to be asked, none where the page is in the cache. -/
def query? (setup : Setup) (call : PageCall) : Except CompileError (Option Query) :=
  match call.target with
  | none => .ok none
  | some search => (batchQuery setup search (call.batchStart setup)).map some

/-- The note before a batch is fetched. -/
def fetchNote (call : PageCall) (query : Query) : Record :=
  .debug s!"Page {call.page} not cached; fetching batch from={query.offset} size={query.size}"

end PageCall

namespace State

variable {ε : Type}

/-- Begin a page change. Only a session that shows something changes its status. -/
def beginPageChange (setup : Setup) (state : State ε) (page : Int) :
    Except CallError (State ε × PageCall) := do
  let number <- checkPage page
  let request := state.pageRequest + 1
  let isCached := state.cache.has (setup.paging.pageStart number)
  pure
    ({ state with
        pageRequest := request
        isChangingPage := true
        lastError := if state.status = .pageFailed then none else state.lastError
        status :=
          if state.status = .ready ∨ state.status = .pageFailed then .changingPage
          else state.status },
      { generation := state.generation
        request
        page := number
        target := if isCached then none else state.search })

/-- Take the answer to a page change. -/
def receivePage [Worded ε] (setup : Setup) (state : State ε) (call : PageCall) :
    Except ε Batch -> (State ε × Arrival) × List Record
  | .error failure =>
      let noted :=
        if call.generation = state.generation then { state with lastError := some failure }
        else state
      ((noted, .failed),
        [.error s!"Page change failed: page={call.page} error={Worded.message failure}"])
  | .ok batch =>
      if call.generation = state.generation then
        let cache := writeBatch setup.paging state.cache (call.batchStart setup) batch.hits
        (({ state with cache }, .stored), [])
      else
        ((state, .superseded),
          [.debug s!"Dropping page batch of superseded search (generation={call.generation})"])

/-- Show the page from the cache. A page without hits leaves the display as it
is. -/
def showPage (setup : Setup) (state : State ε) (call : PageCall) : State ε × List Record :=
  if call.generation = state.generation ∧ call.request = state.pageRequest then
    let hits := pageHits setup.paging state.cache call.page
    if hits.isEmpty then
      (state,
        [.warning s!"Page {call.page} has no cached results; keeping page {state.page}"])
    else ({ state with displayed := hits, page := call.page }, [])
  else (state, [])

/-- Settle a page change that is still the newest one. -/
def settlePage (state : State ε) (call : PageCall) (failed : Bool) : State ε :=
  if call.request = state.pageRequest then
    { state with
      isChangingPage := false
      status :=
        if state.status = .changingPage then
          if failed then .pageFailed else .ready
        else state.status }
  else state

end State
end Session
end Concordance
