import Concordance.Proofs.Journal
import Concordance.Proofs.Session.Sections

/-!
# Calls one after another

A session that is used by one caller runs each call to its end before the next one
starts. This module runs the procedures of a session in this way, against a backend
that answers every query at once.

The main statements say that a whole call is its first section followed by the sections
that remain, and that it is a schedule of the interleaved session in which nothing
stands between the sections. So what holds in every world that can be reached also holds
after every run of whole calls.
-/

namespace Concordance
namespace Session

/-- Procedures of a session that has one caller and whose journal nobody reads. -/
abbrev Alone (ε : Type) := StateM (State ε)

instance {ε : Type} : MonadJournal (Alone ε) where
  record _ := pure ()

instance {ε : Type} : SilentJournal (Alone ε) := ⟨fun _ => rfl⟩

variable {ε : Type}

/-- A backend that fails as given, and otherwise answers by the query. -/
def served (answers : Query -> Batch) (fate : Option ε) (query : Query) : Except ε Batch :=
  match fate with
  | some failure => .error failure
  | none => .ok (answers query)

@[simp] theorem served_some (answers : Query -> Batch) (failure : ε) (query : Query) :
    served answers (some failure) query = .error failure := rfl

@[simp] theorem served_none (answers : Query -> Batch) (query : Query) :
    served answers (none : Option ε) query = .ok (answers query) := rfl

/-- A whole call. A selection that is refused changes nothing. -/
def perform [Worded ε] (setup : Setup) (backend : Query -> Except ε Batch) :
    Call -> Alone ε (Except CallError Unit)
  | .search search texts page =>
      runSearch setup (fun query => pure (backend query)) search texts page
  | .changePage page => changePage setup (fun query => pure (backend query)) page
  | .reset => do
      reset ε
      pure (.ok ())
  | .choose choice => do
      modify fun state => (state.choose? choice).getD state
      pure (.ok ())

/-- The state after a whole call. -/
def State.after [Worded ε]
    (setup : Setup)
    (backend : Query -> Except ε Batch)
    (state : State ε)
    (call : Call) :
    State ε :=
  ((perform setup backend call).run state).run.2

/-- The state after whole calls, each with the failure that the backend has for it. -/
def State.afterAll [Worded ε] (setup : Setup) (answers : Query -> Batch) (state : State ε) :
    List (Call × Option ε) -> State ε
  | [] => state
  | (call, fate) :: calls =>
      (state.after setup (served answers fate) call).afterAll setup answers calls

/-- A backend with hits numbered by rank, for examples of runs. -/
def rankedAnswers (count : Nat) (query : Query) : Batch where
  hits :=
    ((List.range' query.offset.toNat query.size.toNat).filter (· < count)).map fun rank : Nat =>
      { textId := rank
        volume := .int 1
        pageNumber := none
        pageId := none
        uri := "" }
  total := count

/-- What remains of a call, run to its end with nothing in between. -/
def Pending.finish [Worded ε]
    (setup : Setup)
    (backend : Query -> Except ε Batch)
    (state : State ε) :
    Pending -> State ε
  | .searching call => (state.finishSearch setup call (backend call.query)).1
  | .fetching call query =>
      let received := (state.receivePage setup call (backend query)).1
      match received.2 with
      | .stored => (received.1.showPage setup call).1.settlePage call false
      | .superseded => received.1.settlePage call false
      | .failed => received.1.settlePage call true
  | .showing call => (state.showPage setup call).1.settlePage call false
  | .settling call failed => state.settlePage call failed

variable [Worded ε]

/-- A whole search. -/
theorem State.after_search
    (setup : Setup)
    (backend : Query -> Except ε Batch)
    (state : State ε)
    (search : Search)
    (texts : Option Value)
    (page : Int) :
    state.after setup backend (.search search texts page) =
      match state.beginSearch setup search texts page with
      | .error _ => state
      | .ok (searching, call) => (Pending.searching call).finish setup backend searching := by
  simp only [after, perform, runSearch]
  cases outcome : state.beginSearch setup search texts page with
  | error cause => simp [outcome]
  | ok begun => simp [outcome, Pending.finish]

/-- A search does not raise when it begins. -/
theorem perform_search_eq_ok_iff
    (setup : Setup)
    (backend : Query -> Except ε Batch)
    (state : State ε)
    (search : Search)
    (texts : Option Value)
    (page : Int) :
    ((perform setup backend (.search search texts page)).run state).run.1 = .ok () ↔
      ∃ begun, state.beginSearch setup search texts page = .ok begun := by
  simp only [perform, runSearch]
  cases outcome : state.beginSearch setup search texts page with
  | error cause => simp [outcome]
  | ok begun => simp [outcome]

/-- A whole page change. -/
theorem State.after_changePage
    (setup : Setup)
    (backend : Query -> Except ε Batch)
    (state : State ε)
    (page : Int) :
    state.after setup backend (.changePage page) =
      match state.beginPageChange setup page with
      | .error _ => state
      | .ok (changing, call) => (call.afterBegin setup).finish setup backend changing := by
  simp only [after, perform, changePage]
  cases outcome : state.beginPageChange setup page with
  | error cause => simp [outcome]
  | ok begun =>
      obtain ⟨changing, call⟩ := begun
      cases asks : call.query? setup with
      | error cause => simp [outcome, asks, PageCall.afterBegin, Pending.finish]
      | ok query? =>
          cases query? with
          | none => simp [outcome, asks, PageCall.afterBegin, Pending.finish, finishPageChange]
          | some query =>
              cases arrives : (changing.receivePage setup call (backend query)).1.2 with
              | stored =>
                  simp [outcome, asks, arrives, PageCall.afterBegin, Pending.finish,
                    finishPageChange]
              | superseded =>
                  simp [outcome, asks, arrives, PageCall.afterBegin, Pending.finish]
              | failed => simp [outcome, asks, arrives, PageCall.afterBegin, Pending.finish]

/-- A whole call begins, and the section that it leaves runs to the end of the call. A
call that is refused changes nothing. -/
theorem State.after_eq
    (setup : Setup)
    (backend : Query -> Except ε Batch)
    (state : State ε)
    (call : Call) :
    state.after setup backend call =
      match state.start? setup call with
      | none => state
      | some (next, calls) =>
          calls.foldl (fun state part => part.finish setup backend state) next := by
  cases call with
  | search search texts page =>
      rw [after_search, start?]
      cases state.beginSearch setup search texts page <;> rfl
  | changePage page =>
      rw [after_changePage, start?]
      cases state.beginPageChange setup page <;> rfl
  | reset => simp [after, perform, Session.reset, start?]
  | choose choice =>
      simp only [after, perform, start?]
      cases chosen : state.choose? choice <;> simp [chosen]

namespace Reachable

variable {setup : Setup} {world : World ε}

/-- The only call under way can run its next section. -/
theorem resumeOnly
    (reachable : Reachable setup world)
    {part : Pending}
    (underWay : world.pending = [part])
    (outcome : Except ε Batch) :
    Reachable setup (world.resumed [] [] (part.resume setup world.state outcome)) :=
  reachable.resume outcome underWay

/-- A page change that is the only call under way can settle. -/
theorem settle
    (reachable : Reachable setup world)
    (call : PageCall)
    (failed : Bool)
    (underWay : world.pending = [.settling call failed]) :
    ∃ next, Reachable setup next ∧ next.pending = [] ∧
      next.state = world.state.settlePage call failed :=
  ⟨_, reachable.resumeOnly underWay (.ok { hits := [], total := 0 }), rfl, rfl⟩

/-- A page change that is the only call under way can show its page and settle. -/
theorem showAndSettle
    (reachable : Reachable setup world)
    (call : PageCall)
    (underWay : world.pending = [.showing call]) :
    ∃ next, Reachable setup next ∧ next.pending = [] ∧
      next.state = (world.state.showPage setup call).1.settlePage call false :=
  (reachable.resumeOnly underWay (.ok { hits := [], total := 0 })).settle call false rfl

/-- The sections that remain of the only call under way can run to its end. -/
theorem finish
    (reachable : Reachable setup world)
    {part : Pending}
    (underWay : world.pending = [part])
    (backend : Query -> Except ε Batch) :
    ∃ next, Reachable setup next ∧ next.pending = [] ∧
      next.state = part.finish setup backend world.state := by
  cases part with
  | searching call =>
      exact ⟨_, reachable.resumeOnly underWay (backend call.query), rfl, rfl⟩
  | fetching call query =>
      have received := reachable.resumeOnly underWay (backend query)
      simp only [Pending.finish]
      cases arrives : (world.state.receivePage setup call (backend query)).1.2 with
      | stored =>
          exact received.showAndSettle call
            (by simp [Pending.resume, arrives, PageCall.afterArrival])
      | superseded =>
          exact received.settle call false
            (by simp [Pending.resume, arrives, PageCall.afterArrival])
      | failed =>
          exact received.settle call true
            (by simp [Pending.resume, arrives, PageCall.afterArrival])
  | showing call => exact reachable.showAndSettle call underWay
  | settling call failed => exact reachable.settle call failed underWay

/-- A whole call leads from a world without calls under way to another one. -/
theorem after
    (reachable : Reachable setup world)
    (alone : world.pending = [])
    (backend : Query -> Except ε Batch)
    (call : Call) :
    ∃ next, Reachable setup next ∧ next.pending = [] ∧
      next.state = world.state.after setup backend call := by
  rw [State.after_eq]
  cases starts : world.state.start? setup call with
  | none => exact ⟨world, reachable, alone, rfl⟩
  | some begun =>
      obtain ⟨state, calls⟩ := begun
      have begun := reachable.start starts
      have pending_eq : (world.begun state calls).pending = calls := by
        rw [World.begun_pending, alone, List.nil_append]
      rcases State.start?_cases starts with
        ⟨_, _, _, _, _, rfl⟩ | ⟨_, _, rfl⟩ | ⟨_, rfl⟩ | ⟨_, rfl⟩
      · exact begun.finish pending_eq backend
      · exact begun.finish pending_eq backend
      · exact ⟨_, begun, pending_eq, rfl⟩
      · exact ⟨_, begun, pending_eq, rfl⟩

/-- Whole calls, one after another, stay among the worlds that can be reached. -/
theorem afterAll
    (reachable : Reachable setup world)
    (alone : world.pending = [])
    (answers : Query -> Batch)
    (calls : List (Call × Option ε)) :
    ∃ next, Reachable setup next ∧ next.pending = [] ∧
      next.state = world.state.afterAll setup answers calls := by
  induction calls generalizing world with
  | nil => exact ⟨world, reachable, alone, rfl⟩
  | cons step calls inductionHypothesis =>
      obtain ⟨call, fate⟩ := step
      obtain ⟨middle, reached, middleAlone, middle_eq⟩ :=
        reachable.after alone (served answers fate) call
      obtain ⟨next, last, nextAlone, next_eq⟩ := inductionHypothesis reached middleAlone
      exact ⟨next, last, nextAlone, by rw [next_eq, middle_eq, State.afterAll]⟩

end Reachable

end Session
end Concordance
