import Concordance.Session.Export
import Concordance.Session.PageCall

/-!
# Sessions

The calls of a session as whole procedures, in any monad that holds the state and
keeps a journal. The backend is a procedure of the same monad, so that whatever
it does while it is asked, other calls on the same session included, happens
between the sections of a call.
-/

namespace Concordance
namespace Session

variable {ε : Type} {m : Type -> Type} [Monad m] [MonadStateOf (State ε) m] [MonadJournal m]

/-- Replace the state and keep the records that come with it. -/
def commit (step : State ε × List Record) : m Unit := do
  set step.1
  recordAll step.2

/-- Run a search and show a page of its hits. A failure of the backend is kept in
the state. -/
def runSearch [Worded ε]
    (setup : Setup)
    (execute : Query -> m (Except ε Batch))
    (search : Search)
    (texts : Option Value)
    (page : Int) :
    m (Except CallError Unit) := do
  let state : State ε <- get
  match state.beginSearch setup search texts page with
  | .error cause => pure (.error cause)
  | .ok (searching, call) =>
      set searching
      record call.startNote
      let answer <- execute call.query
      let state : State ε <- get
      commit (state.finishSearch setup call answer)
      pure (.ok ())

/-- Show a page and settle. -/
def finishPageChange (setup : Setup) (call : PageCall) : m Unit := do
  let state : State ε <- get
  commit (state.showPage setup call)
  let state : State ε <- get
  set (state.settlePage call false)

/-- Change the page, fetching its batch where the cache lacks it. A failure of the
backend is kept in the state. -/
def changePage [Worded ε]
    (setup : Setup)
    (execute : Query -> m (Except ε Batch))
    (page : Int) :
    m (Except CallError Unit) := do
  let state : State ε <- get
  match state.beginPageChange setup page with
  | .error cause => pure (.error cause)
  | .ok (changing, call) =>
      set changing
      match call.query? setup with
      | .error cause =>
          set (changing.settlePage call false)
          pure (.error (.compile cause))
      | .ok none =>
          finishPageChange (ε := ε) setup call
          pure (.ok ())
      | .ok (some query) =>
          record (call.fetchNote query)
          let answer <- execute query
          let state : State ε <- get
          let ((received, arrival), notes) := state.receivePage setup call answer
          commit (received, notes)
          match arrival with
          | .stored => finishPageChange (ε := ε) setup call
          | .superseded => set (received.settlePage call false)
          | .failed => set (received.settlePage call true)
          pure (.ok ())

/-- Return to the state of a new session. -/
def reset (ε : Type) [MonadStateOf (State ε) m] : m Unit := do
  let state : State ε <- get
  commit (state.reset, [.debug resetNote])

/-- Select something. A selection that is refused leaves the state as it is. -/
def select {κ : Type} (choose : State ε -> Except κ (State ε)) : m (Except κ Unit) := do
  let state : State ε <- get
  match choose state with
  | .error cause => pure (.error cause)
  | .ok chosen =>
      set chosen
      pure (.ok ())

/-- Collect the hits of the active search, at most `limit` of them where a limit is
given. Nothing is asked for no hits. -/
def exportHits
    (setup : Setup)
    (execute : Query -> m (Except ε Batch))
    (chunkSize : Option Int)
    (limit : Option Nat) :
    m (List Hit × Option (ExportError ε)) := do
  if limit = some 0 then pure ([], none)
  else
    let state : State ε <- get
    match Export.ofState setup state chunkSize with
    | .error cause => pure ([], some cause)
    | .ok walk => walk.collectFrom execute limit 0

end Session
end Concordance
