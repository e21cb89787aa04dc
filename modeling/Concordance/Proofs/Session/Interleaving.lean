import Concordance.Proofs.Session.Batches
import Concordance.Session.PageCall

/-!
# Interleaved calls

A call on a session runs in sections. Between two sections of one call, sections of
any other calls may run, and while a call waits for the backend its answer may come
early, late, or as a failure. This module describes all such schedules: the world of
a session is its state with the calls under way and the answers given so far, and an
event begins a call or runs the next section of a call under way.

The sections are those of the calls themselves. The worlds that a new session can
reach are given by induction, and the main statement says that no schedule of events
leaves them.
-/

namespace Concordance
namespace Session

/-- What a user selects beside the search. -/
inductive Choice
  | texts (given : Value)
  | textFilter (given : String)
  | genres (given : List String)
  | collections (given : List String)
  | dates (start finish : Int)
  | noTexts

/-- A call on a session. -/
inductive Call
  | search (search : Search) (texts : Option Value) (page : Int)
  | changePage (page : Int)
  | reset
  | choose (choice : Choice)

/-- A call under way, named for its next section. -/
inductive Pending
  | searching (call : SearchCall)
  | fetching (call : PageCall) (query : Query)
  | showing (call : PageCall)
  | settling (call : PageCall) (failed : Bool)

/-- An answer that the backend gave, with the generation of the call that asked. -/
structure Answer where
  generation : Nat
  query : Query
  batch : Batch

/-- A session with the calls under way and the answers given so far. -/
structure World (ε : Type) where
  state : State ε
  pending : List Pending := []
  answers : List Answer := []

/-- What can happen next: a call begins, or the call at a place among those under way
runs its next section. A section that takes an answer takes the given outcome. -/
inductive Event (ε : Type)
  | start (call : Call)
  | resume (place : Nat) (outcome : Except ε Batch)

/-- The generation in which a call began. -/
def Pending.generation : Pending -> Nat
  | .searching call => call.generation
  | .fetching call _ => call.generation
  | .showing call => call.generation
  | .settling call _ => call.generation

/-- The page change that is under way; a search is none. -/
def Pending.pageCall? : Pending -> Option PageCall
  | .searching _ => none
  | .fetching call _ => some call
  | .showing call => some call
  | .settling call _ => some call

/-- What a call that waits for the backend has asked for: the first rank of a batch
and its query. -/
def Pending.request? (setup : Setup) : Pending -> Option (Nat × Query)
  | .searching call => some (call.batchStart, call.query)
  | .fetching call query => some (call.batchStart setup, query)
  | .showing _ => none
  | .settling _ _ => none

/-- How a page change goes on after its beginning. A query that cannot be compiled
ends it. -/
def PageCall.afterBegin (setup : Setup) (call : PageCall) : Pending :=
  match call.query? setup with
  | .error _ => .settling call false
  | .ok none => .showing call
  | .ok (some query) => .fetching call query

/-- How a page change goes on after its answer. -/
def PageCall.afterArrival (call : PageCall) : Arrival -> Pending
  | .stored => .showing call
  | .superseded => .settling call false
  | .failed => .settling call true

variable {ε : Type}

namespace State

/-- Select something; none where the selection is refused. -/
def choose? (state : State ε) : Choice -> Option (State ε)
  | .texts given => (state.selectTexts given).toOption
  | .textFilter given => some (state.setTextFilter given)
  | .genres given => some (state.setGenres given)
  | .collections given => some (state.setCollections given)
  | .dates start finish => (state.setDateRange start finish).toOption
  | .noTexts => some state.resetSelection

/-- The first section of a call, with the call under way that remains; none where the
call is refused. -/
def start? (setup : Setup) (state : State ε) : Call -> Option (State ε × List Pending)
  | .search search texts page =>
      (state.beginSearch setup search texts page).toOption.map fun (searching, call) =>
        (searching, [.searching call])
  | .changePage page =>
      (state.beginPageChange setup page).toOption.map fun (changing, call) =>
        (changing, [call.afterBegin setup])
  | .reset => some (state.reset, [])
  | .choose choice => (state.choose? choice).map fun chosen => (chosen, [])

end State

/-- The answer in an outcome; a failure is none. -/
def answered (generation : Nat) (query : Query) : Except ε Batch -> List Answer
  | .error _ => []
  | .ok batch => [{ generation, query, batch }]

/-- The next section of a call: the state after it, what remains of the call, and the
answer that it took. -/
def Pending.resume [Worded ε]
    (setup : Setup)
    (state : State ε)
    (outcome : Except ε Batch) : Pending -> World ε
  | .searching call =>
      { state := (state.finishSearch setup call outcome).1
        answers := answered call.generation call.query outcome }
  | .fetching call query =>
      let received := (state.receivePage setup call outcome).1
      { state := received.1
        pending := [call.afterArrival received.2]
        answers := answered call.generation query outcome }
  | .showing call =>
      { state := (state.showPage setup call).1
        pending := [.settling call false] }
  | .settling call failed => { state := state.settlePage call failed }

namespace World

/-- The world of a new session. -/
def initial (least greatest : Int) : World ε :=
  { state := .initial least greatest }

/-- The world after the beginning of a call. -/
def begun (world : World ε) (state : State ε) (calls : List Pending) : World ε :=
  { world with state, pending := world.pending ++ calls }

/-- The world after a section of a call that stood between others. -/
def resumed (world : World ε) (earlier later : List Pending) (after : World ε) : World ε :=
  { state := after.state
    pending := earlier ++ after.pending ++ later
    answers := world.answers ++ after.answers }

@[simp] theorem begun_state (world : World ε) (state : State ε) (calls : List Pending) :
    (world.begun state calls).state = state := rfl

@[simp] theorem begun_pending (world : World ε) (state : State ε) (calls : List Pending) :
    (world.begun state calls).pending = world.pending ++ calls := rfl

@[simp] theorem begun_answers (world : World ε) (state : State ε) (calls : List Pending) :
    (world.begun state calls).answers = world.answers := rfl

@[simp] theorem resumed_state (world : World ε) (earlier later : List Pending) (after : World ε) :
    (world.resumed earlier later after).state = after.state := rfl

@[simp] theorem resumed_pending
    (world : World ε)
    (earlier later : List Pending)
    (after : World ε) :
    (world.resumed earlier later after).pending = earlier ++ after.pending ++ later := rfl

@[simp] theorem resumed_answers
    (world : World ε)
    (earlier later : List Pending)
    (after : World ε) :
    (world.resumed earlier later after).answers = world.answers ++ after.answers := rfl

/-- A call under way after a section either was under way beside the call that ran it,
or is what remains of that call. -/
theorem of_mem_resumed_pending
    {world after : World ε}
    {earlier later : List Pending}
    {part rest : Pending}
    (underWay : world.pending = earlier ++ part :: later)
    (remains : rest ∈ (world.resumed earlier later after).pending) :
    rest ∈ world.pending ∨ rest ∈ after.pending := by
  rw [resumed_pending, List.mem_append, List.mem_append] at remains
  rw [underWay, List.mem_append, List.mem_cons]
  rcases remains with (before | here) | behind
  · exact .inl (.inl before)
  · exact .inr here
  · exact .inl (.inr (.inr behind))

variable [Worded ε]

/-- The world after an event; none where the event cannot happen. -/
def next? (setup : Setup) (world : World ε) : Event ε -> Option (World ε)
  | .start call =>
      (world.state.start? setup call).map fun (state, calls) => world.begun state calls
  | .resume place outcome =>
      world.pending[place]?.map fun part =>
        world.resumed (world.pending.take place) (world.pending.drop (place + 1))
          (part.resume setup world.state outcome)

/-- The world after a schedule of events. -/
def run? (setup : Setup) (world : World ε) : List (Event ε) -> Option (World ε)
  | [] => some world
  | event :: events => (world.next? setup event).bind fun next => next.run? setup events

end World

/-- The worlds that a new session can reach by calls that begin and sections that run,
in any order and with any answers and failures. -/
inductive Reachable [Worded ε] (setup : Setup) : World ε -> Prop
  | initial (least greatest : Int) : Reachable setup (.initial least greatest)
  | start
      {world : World ε}
      {call : Call}
      {state : State ε}
      {calls : List Pending}
      (reachable : Reachable setup world)
      (starts : world.state.start? setup call = some (state, calls)) :
      Reachable setup (world.begun state calls)
  | resume
      {world : World ε}
      {earlier later : List Pending}
      {part : Pending}
      (outcome : Except ε Batch)
      (reachable : Reachable setup world)
      (underWay : world.pending = earlier ++ part :: later) :
      Reachable setup
        (world.resumed earlier later (part.resume setup world.state outcome))

/-- The call at a place stands between those before and those behind it. -/
theorem World.pending_eq_of_getElem?
    {world : World ε}
    {place : Nat}
    {part : Pending}
    (found : world.pending[place]? = some part) :
    world.pending = world.pending.take place ++ part :: world.pending.drop (place + 1) := by
  obtain ⟨inside, rfl⟩ := List.getElem?_eq_some_iff.1 found
  rw [List.getElem_cons_drop, List.take_append_drop]

variable [Worded ε]

/-- An event leads from a world that can be reached to another one. -/
theorem Reachable.next?
    {setup : Setup}
    {world next : World ε}
    {event : Event ε}
    (reachable : Reachable setup world)
    (happens : world.next? setup event = some next) :
    Reachable setup next := by
  cases event with
  | start call =>
      obtain ⟨⟨state, calls⟩, starts, rfl⟩ := Option.map_eq_some_iff.1 happens
      exact reachable.start starts
  | resume place outcome =>
      obtain ⟨part, found, rfl⟩ := Option.map_eq_some_iff.1 happens
      exact reachable.resume outcome (World.pending_eq_of_getElem? found)

/-- Every schedule of events stays among the worlds that can be reached. -/
theorem Reachable.run?
    {setup : Setup}
    {world next : World ε}
    {events : List (Event ε)}
    (reachable : Reachable setup world)
    (runs : world.run? setup events = some next) :
    Reachable setup next := by
  induction events generalizing world with
  | nil =>
      cases runs
      exact reachable
  | cons event events inductionHypothesis =>
      obtain ⟨middle, happens, rest⟩ := Option.bind_eq_some_iff.1 runs
      exact inductionHypothesis (reachable.next? happens) rest

/-- A session with two hits on a page and four in a batch, for examples of schedules. -/
def smallSetup : Setup where
  paging :=
    { batchSize := 4
      pageSize := 2
      window := 10
      pageSize_pos := by decide
      batchSize_pos := by decide
      pageSize_dvd_batchSize := by decide
      window_pos := by decide }

/-- The search for a word. -/
def wordSearch (word : String) : Search :=
  { question := .simple { text := word } }

theorem wordSearch_compiles (setup : Setup) (start : Nat) :
    ∃ query, batchQuery setup (wordSearch "word") start = .ok query :=
  ⟨_, (Query.compile_eq_ok_iff ..).2
    ⟨Int.ofNat_le.2 (Nat.le_add_left 1 _), Int.natCast_pos.2 setup.paging.batchSize_pos,
      Int.natCast_pos.2 setup.paging.pageSize_pos, _, rfl, List.cons_ne_nil _ _, rfl⟩⟩

/-- A batch of hits at the given places. -/
def hitsAt (uris : List String) : Batch where
  hits := uris.map fun uri =>
    { textId := 1
      volume := .int 1
      pageNumber := none
      pageId := none
      uri }
  total := uris.length

end Session
end Concordance
