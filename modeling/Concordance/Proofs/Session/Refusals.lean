import Concordance.Backend.Gateway
import Concordance.Proofs.Session.Generations
import Concordance.Proofs.Session.Queries

/-!
# Calls that are refused

A call is refused before anything has happened: nothing was asked, and the whole state is as it
was, with its counters. A call that begins is carried out, whatever the source answers and
whatever happens to the session meanwhile. For a page change this takes that the active search
compiles for every batch, since the search is compiled again when the page change is under way.
-/

namespace Concordance
namespace Session

variable {ε : Type}

/-- Why a call was refused. -/
inductive Refusal
  | call (cause : CallError)
  | texts (cause : CoercionError)
  | dates (cause : DateRangeError)
  deriving DecidableEq, Repr

/-- Select something, or say why it cannot be selected. -/
def State.choose (state : State ε) : Choice -> Except Refusal (State ε)
  | .texts given => (state.selectTexts given).mapError .texts
  | .textFilter given => .ok (state.setTextFilter given)
  | .genres given => .ok (state.setGenres given)
  | .collections given => .ok (state.setCollections given)
  | .dates start finish => (state.setDateRange start finish).mapError .dates
  | .noTexts => .ok state.resetSelection

/-- The selections that are refused are those that cannot begin. -/
theorem State.choose?_eq_toOption (state : State ε) (choice : Choice) :
    state.choose? choice = (state.choose choice).toOption := by
  cases choice with
  | texts given => cases chosen : state.selectTexts given <;> simp [choose?, choose, chosen] <;> rfl
  | textFilter given => rfl
  | genres given => rfl
  | collections given => rfl
  | dates start finish =>
      cases chosen : state.setDateRange start finish <;> simp [choose?, choose, chosen] <;> rfl
  | noTexts => rfl

/-- A whole call, and why it was refused where it was. -/
def carryOut {m : Type -> Type} [Monad m] [MonadStateOf (State ε) m] [MonadJournal m] [Worded ε]
    (setup : Setup)
    (execute : Query -> m (Except ε Batch)) :
    Call -> m (Except Refusal Unit)
  | .search search texts page => do
      let outcome <- runSearch setup execute search texts page
      pure (outcome.mapError .call)
  | .changePage page => do
      let outcome <- changePage setup execute page
      pure (outcome.mapError .call)
  | .reset => do
      reset ε
      pure (.ok ())
  | .choose choice => select fun state : State ε => state.choose choice

/-- The active search, where there is one, compiles for every batch. -/
def State.ActiveCompiles (setup : Setup) (state : State ε) : Prop :=
  ∀ search, state.search = some search ->
    ∀ start, ∃ query, batchQuery setup search start = .ok query

/-- In every world that can be reached the active search compiles for every batch. -/
theorem Reachable.activeCompiles [Worded ε]
    {setup : Setup}
    {world : World ε}
    (reachable : Reachable setup world) :
    world.state.ActiveCompiles setup := by
  intro search active start
  obtain ⟨base, compiles⟩ := reachable.search_compiles active
  exact batchQuery_isOk compiles start

/-- What comes of a call. One that cannot begin is refused, asks nothing and leaves the state as it
is; any other one is carried out. -/
def Settles {κ α : Type}
    (state : State ε)
    (begun? : Option α)
    (outcome : Except κ Unit)
    (asked : List Query)
    (last : State ε) : Prop :=
  match begun? with
  | none => (∃ cause, outcome = .error cause) ∧ asked = [] ∧ last = state
  | some _ => outcome = .ok ()

section Procedures

variable {setup : Setup} {state : State ε}

/-- A selection is refused where it cannot be made. -/
theorem select_settles {κ : Type} (choose : State ε -> Except κ (State ε)) :
    Yields state (select choose : Asking Query ε (Except κ Unit))
      (Settles state (choose state).toOption) := by
  unfold select
  refine .bind (.get ?_)
  cases choose state with
  | error cause => exact .pure ⟨⟨cause, rfl⟩, rfl, rfl⟩
  | ok chosen => exact .bind (.set (.pure rfl))

/-- What comes of a call does not depend on how its refusals are worded. -/
theorem Settles.mapError {κ κ' α : Type}
    {begun? : Option α}
    {outcome : Except κ Unit}
    {asked : List Query}
    {last : State ε}
    (settles : Settles state begun? outcome asked last)
    (wording : κ -> κ') :
    Settles state begun? (outcome.mapError wording) asked last := by
  cases begun? with
  | none =>
      obtain ⟨⟨cause, rfl⟩, unchanged⟩ := settles
      exact ⟨⟨wording cause, rfl⟩, unchanged⟩
  | some begun =>
      cases settles
      rfl

/-- What comes of a call depends only on whether it begins. -/
theorem Settles.map {κ α β : Type}
    {begun? : Option α}
    {outcome : Except κ Unit}
    {asked : List Query}
    {last : State ε}
    (settles : Settles state begun? outcome asked last)
    (further : α -> β) :
    Settles state (begun?.map further) outcome asked last := by
  cases begun? with
  | none => exact settles
  | some begun => exact settles

/-- A search that compiles for every batch compiles for the batch of a page change. -/
theorem PageCall.query?_isOk
    (compiles : state.ActiveCompiles setup)
    (page : Nat) :
    ∃ query?, (state.pageCall setup page).query? setup = .ok query? := by
  unfold PageCall.query?
  cases target : (state.pageCall setup page).target with
  | none => exact ⟨none, rfl⟩
  | some search =>
      obtain ⟨query, query_eq⟩ :=
        compiles search (State.search_of_target target)
          ((state.pageCall setup page).batchStart setup)
      exact ⟨some query, by simp only [query_eq]; rfl⟩

theorem finishPageChange_ends (call : PageCall) :
    Yields state (finishPageChange (ε := ε) setup call : Asking Query ε Unit) fun _ _ _ => True :=
  .bind (.get (.bind (.commit (.bind (.get (.set trivial))))))

variable [Worded ε] (source : Source ε)

/-- A search is refused where it cannot begin. -/
theorem runSearch_settles (search : Search) (texts : Option Value) (page : Int) :
    Yields state (runSearch setup source.ask search texts page)
      (Settles state (state.beginSearch setup search texts page).toOption) := by
  unfold runSearch
  refine .bind (.get ?_)
  cases state.beginSearch setup search texts page with
  | error cause => exact .pure ⟨⟨cause, rfl⟩, rfl, rfl⟩
  | ok begun =>
      refine .bind (.set (.bind (.record (.bind (.ask fun answer next gives => ?_)))))
      exact .bind (.get (.bind (.commit (.pure rfl))))

/-- A page change is refused where it cannot begin. Once it has begun, it is not refused any
more. -/
theorem changePage_settles
    (compiles : state.ActiveCompiles setup)
    (page : Int) :
    Yields state (changePage setup source.ask page)
      (Settles state (state.beginPageChange setup page).toOption) := by
  unfold changePage
  refine .bind (.get ?_)
  cases begins : state.beginPageChange setup page with
  | error cause => exact .pure ⟨⟨cause, rfl⟩, rfl, rfl⟩
  | ok begun =>
      obtain ⟨changing, call⟩ := begun
      obtain ⟨_, rfl, rfl⟩ := (State.beginPageChange_eq_ok_iff ..).1 begins
      obtain ⟨query?, query_eq⟩ := PageCall.query?_isOk compiles page.toNat
      refine .bind (.set ?_)
      rw [query_eq]
      cases query? with
      | none => exact .bind ((finishPageChange_ends _).mono fun _ _ _ _ => .pure rfl)
      | some query =>
          refine .bind (.record (.bind (.ask fun answer next gives => ?_)))
          refine .bind (.get ?_)
          generalize next.receivePage setup (state.pageCall setup page.toNat) answer = received
          obtain ⟨⟨received, arrival⟩, notes⟩ := received
          refine .bind (.commit ?_)
          cases arrival with
          | stored => exact .bind ((finishPageChange_ends _).mono fun _ _ _ _ => .pure rfl)
          | superseded => exact .bind (.set (.pure rfl))
          | failed => exact .bind (.set (.pure rfl))

/-- The calls that cannot begin are refused, and the others are carried out. -/
theorem carryOut_settles
    (compiles : state.ActiveCompiles setup)
    (call : Call) :
    Yields state (carryOut setup source.ask call) (Settles state (state.start? setup call)) := by
  cases call with
  | search search texts page =>
      refine .bind ((runSearch_settles source search texts page).mono ?_)
      intro outcome asked last settles
      refine .pure ?_
      rw [List.append_nil]
      exact (settles.mapError Refusal.call).map _
  | changePage page =>
      refine .bind ((changePage_settles source compiles page).mono ?_)
      intro outcome asked last settles
      refine .pure ?_
      rw [List.append_nil]
      exact (settles.mapError Refusal.call).map _
  | reset => exact .bind (.bind (.get (.commit (.pure rfl))))
  | choose choice =>
      refine (select_settles fun state => state.choose choice).mono ?_
      intro outcome asked last settles
      rw [State.start?, State.choose?_eq_toOption]
      exact settles.map _

end Procedures

/-- A call that is refused has asked nothing and has left the whole state as it was. A page change
to a page that exists is never refused, whatever the source does, since the active search compiles
for every batch. -/
theorem refused_calls_change_nothing [Worded ε]
    {setup : Setup}
    {world : World ε}
    (reachable : Reachable setup world) :
    (∀ (source : Source ε) (call : Call) (refusal : Refusal),
      (Asking.course (carryOut setup source.ask call) world.state).result = .error refusal ->
        (Asking.course (carryOut setup source.ask call) world.state).queries = [] ∧
        (Asking.course (carryOut setup source.ask call) world.state).state = world.state) ∧
      (∀ (source : Source ε) (page : Int), 1 ≤ page ->
        (Asking.course (carryOut setup source.ask (.changePage page)) world.state).result =
          .ok ()) ∧
      world.state.ActiveCompiles setup := by
  have compiles := reachable.activeCompiles
  refine ⟨fun source call refusal refused => ?_, fun source page numbered => ?_, compiles⟩
  · have settles := (carryOut_settles source compiles call).course
    rw [refused] at settles
    cases begins : world.state.start? setup call with
    | none =>
        rw [begins] at settles
        exact settles.2
    | some begun =>
        rw [begins] at settles
        cases settles
  · have settles := (carryOut_settles source compiles (.changePage page)).course
    have begins := (State.beginPageChange_eq_ok_iff setup world.state _ page _).2
      ⟨numbered, rfl, rfl⟩
    rw [State.start?, begins] at settles
    exact settles

/-- Calls that are refused, for examples: numbers, texts, terms, kinds and dates that are not
accepted. -/
def refusedCalls : List Call :=
  [.search (wordSearch "word") none 0, .search (wordSearch "word") (some (.str "x")) 1,
    .search (wordSearch " ") none 1, .search { question := .unsupported "fuzzy" } none 1,
    .changePage 0, .choose (.texts (.int 3)), .choose (.dates 3 2)]

/-- A source that lets the session be reset and then fails. -/
def resettingSource : Source Backend.GatewayError := fun _ _ => do
  modify State.reset
  pure (.error (.beyondWindow 10 12))

/-- After a page change that failed, calls are refused without a trace, and the next page change is
carried out while the session is reset and its query fails. -/
theorem refused_calls_leave_failed_page :
    ∃ world,
      (World.initial 0 2000).run? smallSetup
          [.start (.search (wordSearch "word") none 1), .resume 0 (.ok (hitsAt ["a"])),
            .start (.changePage 3), .resume 0 (.error (.beyondWindow 10 4)),
            .resume 0 (.error (.beyondWindow 10 4))] =
        some world ∧
      world.state.status = .pageFailed ∧
      (∀ call ∈ refusedCalls,
        (Asking.course (carryOut smallSetup resettingSource.ask call) world.state).state =
          world.state) ∧
      1 ≤ (3 : Int) ∧
      (Asking.course (carryOut smallSetup resettingSource.ask (.changePage 3))
        world.state).queries.length = 1 ∧
      (Asking.course (carryOut smallSetup resettingSource.ask (.changePage 3))
        world.state).result = .ok () := by
  have summary :
      ((World.initial 0 2000).run? smallSetup
          [.start (.search (wordSearch "word") none 1), .resume 0 (.ok (hitsAt ["a"])),
            .start (.changePage 3), .resume 0 (.error (.beyondWindow 10 4)),
            .resume 0 (.error (.beyondWindow 10 4))]).map
          (fun world =>
            (world.state.status,
              refusedCalls.all fun call =>
                (Asking.course (carryOut smallSetup resettingSource.ask call)
                  world.state).result.toOption.isNone,
              (Asking.course (carryOut smallSetup resettingSource.ask (.changePage 3))
                world.state).queries.length)) =
        some (.pageFailed, true, 1) := by
    decide +kernel
  obtain ⟨world, runs, equal⟩ := Option.map_eq_some_iff.1 summary
  simp only [Prod.mk.injEq, List.all_eq_true] at equal
  obtain ⟨status_eq, refused, asked⟩ := equal
  obtain ⟨untouched, carriedOut, _⟩ :=
    refused_calls_change_nothing ((Reachable.initial 0 2000).run? runs)
  refine ⟨world, runs, status_eq, fun call member => ?_, by decide, asked,
    carriedOut resettingSource 3 (by decide)⟩
  have refused := refused call member
  cases outcome : (Asking.course (carryOut smallSetup resettingSource.ask call)
      world.state).result with
  | error refusal => exact (untouched resettingSource call refusal outcome).2
  | ok done => simp [outcome, Except.toOption] at refused

end Session
end Concordance
