import Concordance.Proofs.Session.QuietCalls
import Mathlib.Algebra.Ring.Nat

/-!
# Completing page changes in any order

When several page changes are under way, their answers may come in any order. Where a backend
answers by the query alone, and no search disturbs the page changes, the order does not matter:
once all of them have ended, the session holds and shows the same, whichever of them failed. Only
the error that is kept may be another one, since it is the one that came last.

The proof looks ahead. What the session will hold at a rank, and what it will show, can be told
from the calls under way: every answer that is still to come brings its batch, and the holder of
the newest page request decides about the display. No section changes this outlook.
-/

namespace Concordance
namespace Session

variable {ε : Type}

/-- The outcome that a section takes. The page changes fail as given for their page requests;
all other requests are answered by the query. -/
def Pending.outcome (answers : Query -> Batch) (fates : Nat -> Option ε) :
    Pending -> Except ε Batch
  | .searching call => .ok (answers call.query)
  | .fetching call query => served answers (fates call.request) query
  | .showing _ => .ok { hits := [], total := 0 }
  | .settling _ _ => .ok { hits := [], total := 0 }

section Outlook

variable (setup : Setup) (answers : Query -> Batch) (fates : Nat -> Option ε)

/-- A state apart from the hits and the error that it keeps. -/
def State.visible (state : State ε) : State ε :=
  { state with cache := .empty, lastError := none }

/-- What a page will hold when its batch has come; without an active search it holds nothing. -/
def State.pageAhead (state : State ε) (page : Nat) : List Hit :=
  match state.search with
  | none => []
  | some search => uncachedPage setup answers search page

/-- The state in which a page will be on display, unless it is empty. -/
def State.showingAhead (state : State ε) (page : Nat) : State ε :=
  if state.pageAhead setup answers page = [] then state
  else { state with displayed := state.pageAhead setup answers page, page }

/-- The state when a call under way has ended, where the call is the newest page change. -/
def Pending.ahead (state : State ε) : Pending -> State ε
  | .searching _ => state
  | .fetching call _ =>
      if (fates call.request).isSome then state.settled true
      else (state.showingAhead setup answers call.page).settled false
  | .showing call => (state.showingAhead setup answers call.page).settled false
  | .settling _ failed => state.settled failed

/-- Whether a call under way will bring the batch from `start` on. -/
def Pending.brings (generation start : Nat) : Pending -> Bool
  | .fetching call _ =>
      decide (call.generation = generation) && (fates call.request).isNone &&
        decide (call.batchStart setup = start)
  | _ => false

namespace World

variable (world : World ε)

/-- The page change under way that holds the newest page request. -/
def newest? : Option Pending :=
  world.pending.find? fun part => part.pageRequest? == some world.state.pageRequest

/-- What the state will be, apart from hits and error, when all calls under way have ended. -/
def stateAhead : State ε :=
  match world.newest? with
  | none => world.state.visible
  | some part => part.ahead setup answers fates world.state.visible

/-- What the cache will hold at a rank when all calls under way have ended. -/
def hitAhead? (rank : Nat) : Option Hit :=
  if world.pending.any
      (Pending.brings setup fates world.state.generation (setup.paging.batchStart rank)) then
    world.state.search.bind fun search => uncachedHit? setup answers search rank
  else world.state.cache.get? rank

end World
end Outlook

namespace World

variable {world : World ε}

/-- Page requests that are distinct tell the page changes apart. -/
theorem newest?_eq_some
    (distinct : world.NumbersDistinct)
    {part : Pending}
    (underWay : part ∈ world.pending)
    (isNewest : part.pageRequest? = some world.state.pageRequest) :
    world.newest? = some part := by
  obtain ⟨earlier, later, split⟩ := List.append_of_mem underWay
  have distinctRequests := distinct.pages
  rw [pageRequests, split, List.filterMap_append, List.filterMap_cons_some isNewest,
    List.nodup_middle, List.nodup_cons, List.mem_append, not_or] at distinctRequests
  have notEarlier :
      earlier.find? (fun other => other.pageRequest? == some world.state.pageRequest) = none := by
    simpa using distinctRequests.1.1
  rw [newest?, split, List.find?_append, notEarlier, Option.none_or,
    List.find?_cons_of_pos (by simp [isNewest])]

theorem newest?_eq_none_iff :
    world.newest? = none ↔ world.state.pageRequest ∉ world.pageRequests := by
  simp [newest?, pageRequests]

theorem mem_of_newest?_eq_some
    {part : Pending}
    (found : world.newest? = some part) :
    part ∈ world.pending ∧ part.pageRequest? = some world.state.pageRequest := by
  have isNewest := List.find?_some found
  exact ⟨List.mem_of_find?_eq_some found, by simpa using isNewest⟩

end World

section Visible

variable {setup : Setup} {answers : Query -> Batch} {fates : Nat -> Option ε} {state : State ε}

/-- A page whose batch is held is the page that is ahead. -/
theorem State.pageHits_eq_pageAhead
    (whole : HoldsWholeBatches setup answers state.search state.cache)
    {page : Nat}
    (holds : state.HoldsPage setup answers page) :
    pageHits setup.paging state.cache page = state.pageAhead setup answers page := by
  unfold State.pageAhead
  cases active : state.search with
  | none =>
      rw [active] at whole
      exact whole.pageHits_eq_nil page
  | some search => exact pageHits_eq_uncachedPage (holds search active)

/-- The newest page change shows the page that is ahead. -/
theorem State.showPage_visible
    {call : PageCall}
    (generation_eq : call.generation = state.generation)
    (request_eq : call.request = state.pageRequest)
    (page_eq :
      pageHits setup.paging state.cache call.page = state.pageAhead setup answers call.page) :
    (state.showPage setup call).1.visible =
      state.visible.showingAhead setup answers call.page := by
  have ahead_eq :
      state.visible.pageAhead setup answers call.page =
        state.pageAhead setup answers call.page := rfl
  unfold State.showingAhead
  by_cases empty : state.pageAhead setup answers call.page = []
  · have hidden : ¬state.Shows setup call := fun shows => shows.nonempty (page_eq.trans empty)
    rw [State.showPage_of_not_shows hidden, if_pos (ahead_eq.trans empty)]
  · have shows : state.Shows setup call :=
      ⟨generation_eq, request_eq, fun nothing => empty (page_eq.symm.trans nothing)⟩
    rw [State.showPage_of_shows shows, if_neg (ahead_eq ▸ empty), ahead_eq, ← page_eq]
    rfl

end Visible

/-- A superseded call brings nothing. -/
theorem Pending.brings_of_superseded
    {setup : Setup}
    {fates : Nat -> Option ε}
    {part : Pending}
    {generation start : Nat}
    (superseded : part.generation ≠ generation) :
    part.brings setup fates generation start = false := by
  cases part with
  | fetching call query =>
      have notNewest : call.generation ≠ generation := superseded
      simp [brings, notNewest]
  | _ => rfl

/-- A call that has asked for nothing brings nothing. -/
theorem Pending.brings_of_request?_eq_none
    {setup : Setup}
    {fates : Nat -> Option ε}
    {part : Pending}
    {generation start : Nat}
    (asksNothing : part.request? setup = none) :
    part.brings setup fates generation start = false := by
  cases part with
  | fetching call query => cases asksNothing
  | _ => rfl

/-- With no calls under way, what is ahead is there. -/
theorem World.ahead_of_ended
    {setup : Setup}
    {answers : Query -> Batch}
    {fates : Nat -> Option ε}
    {world : World ε}
    (ended : world.pending = []) :
    world.stateAhead setup answers fates = world.state.visible ∧
      ∀ rank, world.hitAhead? setup answers fates rank = world.state.cache.get? rank := by
  constructor
  · rw [World.stateAhead, World.newest?, ended, List.find?_nil]
  · intro rank
    rw [World.hitAhead?, ended, List.any_nil, if_neg Bool.false_ne_true]

variable [Worded ε]

/-- The world after the calls under way at the given places have run their next sections, one
after another; none where no call is under way at a place. -/
def World.runOrder?
    (setup : Setup)
    (answers : Query -> Batch)
    (fates : Nat -> Option ε)
    (world : World ε) :
    List Nat -> Option (World ε)
  | [] => some world
  | place :: places =>
      world.pending[place]?.bind fun part =>
        (world.next? setup (.resume place (part.outcome answers fates))).bind fun next =>
          next.runOrder? setup answers fates places

/-- A section of a call that is not the newest page change, and no search of the current
generation, shows nothing. -/
theorem Pending.resume_visible_of_not_newest
    {setup : Setup}
    {state : State ε}
    {outcome : Except ε Batch}
    {part : Pending}
    (notNewest : part.pageRequest? ≠ some state.pageRequest)
    (notSearching : ∀ call, part = .searching call -> call.generation ≠ state.generation) :
    (part.resume setup state outcome).state.visible = state.visible := by
  have effect := resume_effect setup state outcome part
  generalize (part.resume setup state outcome).state = next at effect ⊢
  cases effect with
  | searchFailed newest fails => exact absurd newest (notSearching _ rfl)
  | searchAnswered newest succeeds => exact absurd newest (notSearching _ rfl)
  | shown shows => exact absurd (congrArg some shows.request_eq) notNewest
  | settled newest => exact absurd (congrArg some newest) notNewest
  | _ => rfl

/-- The answers that a section takes are those to the queries, whichever requests fail. -/
theorem Pending.honest_outcome
    {setup : Setup}
    {answers : Query -> Batch}
    {fates : Nat -> Option ε}
    {state : State ε}
    {part : Pending}
    {answer : Answer}
    (taken : answer ∈ (part.resume setup state (part.outcome answers fates)).answers) :
    answer.batch = answers answer.query := by
  cases part with
  | searching call =>
      cases List.mem_singleton.1 taken
      rfl
  | fetching call query =>
      simp only [resume, outcome] at taken
      cases fate : fates call.request with
      | some failure =>
          rw [fate] at taken
          cases taken
      | none =>
          rw [fate] at taken
          cases List.mem_singleton.1 taken
          rfl
  | showing call => cases taken
  | settling call failed => cases taken

/-- When its answer has come, or its failure, a page change of the current generation goes on to
what was ahead of it. -/
theorem Pending.exists_rest_of_fetching
    (setup : Setup)
    (answers : Query -> Batch)
    (fates : Nat -> Option ε)
    {state : State ε}
    {call : PageCall}
    (query : Query)
    (current : call.generation = state.generation) :
    ∃ rest,
      ((fetching call query).resume setup state
        ((fetching call query).outcome answers fates)).pending = [rest] ∧
      rest.pageRequest? = some call.request ∧
      rest.ahead setup answers fates
          ((fetching call query).resume setup state
            ((fetching call query).outcome answers fates)).state.visible =
        (fetching call query).ahead setup answers fates state.visible := by
  cases fate : fates call.request with
  | some failure =>
      refine ⟨.settling call true, ?_, rfl, ?_⟩
      · simp [resume, outcome, fate, State.receivePage_error current, PageCall.afterArrival]
      · simp [ahead, resume, outcome, fate, State.receivePage_error current, State.visible]
  | none =>
      refine ⟨.showing call, ?_, rfl, ?_⟩
      · simp [resume, outcome, fate, State.receivePage_ok current, PageCall.afterArrival]
      · simp [ahead, resume, outcome, fate, State.receivePage_ok current, State.visible,
          State.batchStored]

/-- A world in which no search runs and no page change under way has been disturbed by one. -/
structure World.Calm
    (setup : Setup)
    (answers : Query -> Batch)
    (quiet : List Nat)
    (world : World ε) : Prop where
  reachable : Reachable setup world
  inOrder : world.QuietInOrder setup answers quiet
  rests : world.state.isSearching = false
  allQuiet : ∀ request ∈ world.pageRequests, request ∈ quiet

namespace World.Calm

variable
  {setup : Setup}
  {answers : Query -> Batch}
  {fates : Nat -> Option ε}
  {quiet : List Nat}
  {world : World ε}
  {earlier later : List Pending}
  {part : Pending}

/-- A world stays calm when the calls under way go on. -/
theorem resume
    (calm : world.Calm setup answers quiet)
    (underWay : world.pending = earlier ++ part :: later) :
    (world.resumed earlier later
      (part.resume setup world.state (part.outcome answers fates))).Calm setup answers quiet where
  reachable := calm.reachable.resume _ underWay
  inOrder := calm.inOrder.resume calm.reachable underWay fun _ => Pending.honest_outcome
  rests := Pending.resume_isSearching calm.rests
  allQuiet request held := by
    obtain ⟨rest, remains, call, isPage, rfl⟩ := (World.mem_pageRequests_iff ..).1 held
    apply calm.allQuiet
    apply (World.mem_pageRequests_iff ..).2
    rcases World.of_mem_resumed_pending underWay remains with before | here
    · exact ⟨rest, before, call, isPage, rfl⟩
    · have partIsPage := (Pending.of_mem_resume_pending here).2.1.symm.trans isPage
      exact ⟨part, by simp [underWay], call, partIsPage, rfl⟩

/-- Searches under way are of earlier generations. -/
theorem searching_superseded
    (calm : world.Calm setup answers quiet)
    {call : SearchCall}
    (underWay : .searching call ∈ world.pending) :
    call.generation ≠ world.state.generation :=
  World.QuietInOrder.searching_superseded calm.reachable calm.rests underWay

/-- A page of the current generation that is about to be shown is the page that is ahead. -/
theorem pageHits_eq_pageAhead
    (calm : world.Calm setup answers quiet)
    {call : PageCall}
    (underWay : .showing call ∈ world.pending)
    (current : call.generation = world.state.generation) :
    pageHits setup.paging world.state.cache call.page =
      world.state.pageAhead setup answers call.page := by
  apply State.pageHits_eq_pageAhead (calm.inOrder.whole calm.rests)
  have held := (World.mem_pageRequests_iff world _).2 ⟨_, underWay, call, rfl, rfl⟩
  exact (calm.inOrder.undisturbed _ underWay call rfl (calm.allQuiet _ held) current).2 rfl

/-- The newest page change stays the newest one when another call goes on. -/
theorem newest?_resumed_of_not_newest
    (calm : world.Calm setup answers quiet)
    (underWay : world.pending = earlier ++ part :: later)
    (notNewest : part.pageRequest? ≠ some world.state.pageRequest) :
    (world.resumed earlier later
        (part.resume setup world.state (part.outcome answers fates))).newest? =
      world.newest? := by
  have distinct :
      (world.resumed earlier later
        (part.resume setup world.state (part.outcome answers fates))).NumbersDistinct :=
    (calm.resume underWay).reachable.numbersDistinct
  have request_eq :=
    (Pending.resume_frame setup world.state (part.outcome answers fates) part).2.1
  cases found : world.newest? with
  | some newest =>
      obtain ⟨member, isNewest⟩ := World.mem_of_newest?_eq_some found
      apply World.newest?_eq_some distinct
      · rw [underWay, List.mem_append, List.mem_cons] at member
        rcases member with before | rfl | behind
        · simp [before]
        · exact absurd isNewest notNewest
        · simp [behind]
      · rw [isNewest, World.resumed_state, request_eq]
  | none =>
      have notHeld := World.newest?_eq_none_iff.1 found
      apply World.newest?_eq_none_iff.2
      rw [World.resumed_state, request_eq,
        calm.reachable.numbersDistinct.page_stays underWay fun call failed same held =>
          notNewest (same ▸ congrArg some held)]
      exact notHeld

/-- A section of a call that is not the newest page change leaves what will be shown as it is. -/
theorem stateAhead_resumed_of_not_newest
    (calm : world.Calm setup answers quiet)
    (underWay : world.pending = earlier ++ part :: later)
    (notNewest : part.pageRequest? ≠ some world.state.pageRequest) :
    (world.resumed earlier later
        (part.resume setup world.state (part.outcome answers fates))).stateAhead
          setup answers fates =
      world.stateAhead setup answers fates := by
  have visible_eq :
      (part.resume setup world.state (part.outcome answers fates)).state.visible =
        world.state.visible := by
    apply Pending.resume_visible_of_not_newest notNewest
    rintro call rfl
    exact calm.searching_superseded (by simp [underWay])
  unfold World.stateAhead
  rw [calm.newest?_resumed_of_not_newest underWay notNewest, World.resumed_state, visible_eq]

/-- What remains of the newest page change is the newest one. -/
theorem stateAhead_resumed_of_goesOn
    (calm : world.Calm setup answers quiet)
    (underWay : world.pending = earlier ++ part :: later)
    {rest : Pending}
    (goesOn :
      (part.resume setup world.state (part.outcome answers fates)).pending = [rest])
    (isNewest : rest.pageRequest? = some world.state.pageRequest) :
    (world.resumed earlier later
        (part.resume setup world.state (part.outcome answers fates))).stateAhead
          setup answers fates =
      rest.ahead setup answers fates
        (part.resume setup world.state (part.outcome answers fates)).state.visible := by
  have request_eq :=
    (Pending.resume_frame setup world.state (part.outcome answers fates) part).2.1
  have found :
      (world.resumed earlier later
        (part.resume setup world.state (part.outcome answers fates))).newest? = some rest := by
    apply World.newest?_eq_some (calm.resume underWay).reachable.numbersDistinct
    · simp [goesOn]
    · rw [isNewest, World.resumed_state, request_eq]
  rw [World.stateAhead, found, World.resumed_state]

/-- A section of the newest page change leaves what will be shown as it is. -/
theorem stateAhead_resumed_of_newest
    (calm : world.Calm setup answers quiet)
    (underWay : world.pending = earlier ++ part :: later)
    (isNewest : part.pageRequest? = some world.state.pageRequest) :
    (world.resumed earlier later
        (part.resume setup world.state (part.outcome answers fates))).stateAhead
          setup answers fates =
      world.stateAhead setup answers fates := by
  have member : part ∈ world.pending := by simp [underWay]
  have found := World.newest?_eq_some calm.reachable.numbersDistinct member isNewest
  rw [World.stateAhead.eq_1 setup answers fates world, found]
  cases part with
  | searching call => cases isNewest
  | fetching call query =>
      have request_eq := Option.some.inj isNewest
      have current := (calm.reachable.requestsInOrder _ member call rfl).2 request_eq
      obtain ⟨rest, goesOn, same, ahead_eq⟩ :=
        Pending.exists_rest_of_fetching setup answers fates query current
      rw [calm.stateAhead_resumed_of_goesOn underWay goesOn (same.trans isNewest), ahead_eq]
  | showing call =>
      have request_eq := Option.some.inj isNewest
      have newest := (calm.reachable.requestsInOrder _ member call rfl).2 request_eq
      rw [calm.stateAhead_resumed_of_goesOn underWay rfl isNewest]
      simp only [Pending.ahead, Pending.resume]
      rw [State.showPage_visible newest request_eq (calm.pageHits_eq_pageAhead member newest)]
  | settling call failed =>
      have request_eq := Option.some.inj isNewest
      have ended :
          (world.resumed earlier later
            ((Pending.settling call failed).resume setup world.state
              ((Pending.settling call failed).outcome answers fates))).newest? = none := by
        apply World.newest?_eq_none_iff.2
        rw [calm.reachable.numbersDistinct.page_ends underWay]
        rintro ⟨_, different⟩
        exact different ((Pending.resume_frame ..).2.1.trans request_eq.symm)
      rw [World.stateAhead, ended, World.resumed_state]
      simp only [Pending.ahead, Pending.resume, State.settlePage_of_newest request_eq]
      rfl

/-- A section brings its batch into the cache, where it brings one, and changes nothing else
there. -/
theorem get?_resume
    (calm : world.Calm setup answers quiet)
    (underWay : part ∈ world.pending)
    (rank : Nat) :
    (part.resume setup world.state (part.outcome answers fates)).state.cache.get? rank =
      if part.brings setup fates world.state.generation (setup.paging.batchStart rank) then
        world.state.search.bind fun search => uncachedHit? setup answers search rank
      else world.state.cache.get? rank := by
  have effect := Pending.resume_effect setup world.state (part.outcome answers fates) part
  generalize (part.resume setup world.state (part.outcome answers fates)).state = next at effect ⊢
  cases effect with
  | late asked superseded => rw [Pending.brings_of_superseded superseded, if_neg Bool.false_ne_true]
  | searchFailed newest fails => exact absurd newest (calm.searching_superseded underWay)
  | searchAnswered newest succeeds => exact absurd newest (calm.searching_superseded underWay)
  | @fetchFailed call query failure newest fails =>
      cases fate : fates call.request with
      | some failure => simp [Pending.brings, fate]
      | none => simp [Pending.outcome, fate] at fails
  | @fetched call query batch newest succeeds =>
      cases fate : fates call.request with
      | some failure => simp [Pending.outcome, fate] at succeeds
      | none =>
          obtain rfl : answers query = batch := by simpa [Pending.outcome, fate] using succeeds
          obtain ⟨search, active, get?_eq⟩ :=
            calm.inOrder.get?_batchStored_eq calm.reachable calm.rests underWay newest
          simp [get?_eq, active, Pending.brings, newest, fate, eq_comm]
  | shown shows => rfl
  | hidden hidden => rfl
  | settled newest => rfl
  | overtaken superseded => rfl

/-- No section changes what the cache will hold. -/
theorem hitAhead?_resumed
    (calm : world.Calm setup answers quiet)
    (underWay : world.pending = earlier ++ part :: later)
    (rank : Nat) :
    (world.resumed earlier later
        (part.resume setup world.state (part.outcome answers fates))).hitAhead?
          setup answers fates rank =
      world.hitAhead? setup answers fates rank := by
  obtain ⟨generation_eq, _, search_eq⟩ :=
    Pending.resume_frame setup world.state (part.outcome answers fates) part
  have nothingMore :
      (part.resume setup world.state (part.outcome answers fates)).pending.any
        (Pending.brings setup fates world.state.generation (setup.paging.batchStart rank)) =
          false := by
    refine List.any_eq_false.2 fun rest remains => ?_
    rw [Pending.brings_of_request?_eq_none (Pending.of_mem_resume_pending remains).2.2]
    exact Bool.false_ne_true
  unfold World.hitAhead?
  rw [World.resumed_state, World.resumed_pending, generation_eq, search_eq,
    calm.get?_resume (by simp [underWay]), underWay]
  simp only [List.any_append, List.any_cons, nothingMore, Bool.or_false]
  cases part.brings setup fates world.state.generation (setup.paging.batchStart rank) <;> simp

/-- Sections in any order leave the world calm and what is ahead as it is. -/
theorem runOrder?
    (calm : world.Calm setup answers quiet)
    {order : List Nat}
    {final : World ε}
    (runs : world.runOrder? setup answers fates order = some final) :
    final.stateAhead setup answers fates = world.stateAhead setup answers fates ∧
      ∀ rank, final.hitAhead? setup answers fates rank =
        world.hitAhead? setup answers fates rank := by
  induction order generalizing world with
  | nil =>
      cases runs
      exact ⟨rfl, fun rank => rfl⟩
  | cons place places inductionHypothesis =>
      obtain ⟨part, found, continues⟩ := Option.bind_eq_some_iff.1 runs
      obtain ⟨next, happens, rest⟩ := Option.bind_eq_some_iff.1 continues
      simp only [World.next?, found, Option.map_some, Option.some.injEq] at happens
      subst happens
      have underWay := World.pending_eq_of_getElem? found
      obtain ⟨state_eq, hit_eq⟩ := inductionHypothesis (calm.resume underWay) rest
      constructor
      · rw [state_eq]
        by_cases isNewest : part.pageRequest? = some world.state.pageRequest
        · exact calm.stateAhead_resumed_of_newest underWay isNewest
        · exact calm.stateAhead_resumed_of_not_newest underWay isNewest
      · intro rank
        rw [hit_eq, calm.hitAhead?_resumed underWay]

end World.Calm

/-- The sections that remain of a call under way, at most. -/
def Pending.sections : Pending -> Nat
  | .searching _ => 1
  | .fetching _ _ => 3
  | .showing _ => 2
  | .settling _ _ => 1

/-- The sections that remain of the calls under way, at most. -/
def World.sections (world : World ε) : Nat :=
  (world.pending.map Pending.sections).sum

/-- A call under way has a section less after each of its sections. -/
theorem Pending.sections_resume_lt
    (setup : Setup)
    (state : State ε)
    (outcome : Except ε Batch)
    (part : Pending) :
    (part.resume setup state outcome).sections < part.sections := by
  cases part with
  | searching call => exact Nat.one_pos
  | fetching call query =>
      simp only [resume]
      cases (state.receivePage setup call outcome).1.2 <;>
        simp [World.sections, PageCall.afterArrival, sections]
  | showing call => exact Nat.lt_succ_self 1
  | settling call failed => exact Nat.one_pos

/-- The calls under way can be run to their ends. -/
theorem World.exists_runOrder?_ended
    (setup : Setup)
    (answers : Query -> Batch)
    (fates : Nat -> Option ε)
    (world : World ε) :
    ∃ order final, world.runOrder? setup answers fates order = some final ∧
      final.pending = [] := by
  induction count_eq : world.sections using Nat.strongRecOn generalizing world with
  | ind count inductionHypothesis =>
      cases pending_eq : world.pending with
      | nil => exact ⟨[], world, rfl, pending_eq⟩
      | cons part later =>
          have fewer :
              (world.resumed [] later
                (part.resume setup world.state (part.outcome answers fates))).sections <
                  count := by
            have ends :=
              Pending.sections_resume_lt setup world.state (part.outcome answers fates) part
            simp only [← count_eq, World.sections, World.resumed_pending, pending_eq,
              List.nil_append, List.map_append, List.sum_append, List.map_cons,
              List.sum_cons] at ends ⊢
            omega
          obtain ⟨order, final, runs, ended⟩ := inductionHypothesis _ fewer _ rfl
          refine ⟨0 :: order, final, ?_, ended⟩
          simp [World.runOrder?, World.next?, pending_eq, runs]

/-- The order in which page changes complete does not matter. The world is reached by a schedule
of calls whose answers depend on the query alone; no search is running, and the page changes
under way have begun while none was. Which of them fail is fixed. Their remaining sections can be
run to the end, and whatever the order in which they are run, the session then holds and shows
the same and has the same status and flags; only the error that is kept may differ. -/
theorem completion_order_does_not_matter
    {setup : Setup}
    (answers : Query -> Batch)
    (fates : Nat -> Option ε)
    {least greatest : Int}
    {events : List (Event ε)}
    {world : World ε}
    (runs : (World.initial least greatest).run? setup events = some world)
    (honest : ∀ answer ∈ world.answers, answer.batch = answers answer.query)
    (rests : world.state.isSearching = false)
    (quiet : ∀ request ∈ world.pageRequests,
      request ∈ (World.initial least greatest : World ε).quietRequests setup events) :
    (∃ order final, world.runOrder? setup answers fates order = some final ∧
      final.pending = []) ∧
    ∀ firstOrder secondOrder first second,
      world.runOrder? setup answers fates firstOrder = some first -> first.pending = [] ->
      world.runOrder? setup answers fates secondOrder = some second -> second.pending = [] ->
        ∃ lastError, second.state = { first.state with lastError } := by
  refine ⟨world.exists_runOrder?_ended setup answers fates, ?_⟩
  intro firstOrder secondOrder first second firstRuns firstEnded secondRuns secondEnded
  have begins : Reachable setup (World.initial least greatest : World ε) :=
    .initial least greatest
  have calm :
      world.Calm setup answers ((World.initial least greatest).quietRequests setup events) :=
    { reachable := begins.run? runs
      inOrder := by simpa using (World.QuietInOrder.initial least greatest).run begins runs honest
      rests
      allQuiet := quiet }
  obtain ⟨firstState, firstHits⟩ := calm.runOrder? firstRuns
  obtain ⟨secondState, secondHits⟩ := calm.runOrder? secondRuns
  obtain ⟨firstVisible, firstHeld⟩ := World.ahead_of_ended firstEnded
  obtain ⟨secondVisible, secondHeld⟩ := World.ahead_of_ended secondEnded
  have visible_eq : second.state.visible = first.state.visible := by
    rw [← secondVisible, ← firstVisible, firstState, secondState]
  have cache_eq : second.state.cache = first.state.cache := by
    apply Cache.ext_get?
    intro rank
    rw [← secondHeld, ← firstHeld, firstHits, secondHits]
  refine ⟨second.state.lastError, ?_⟩
  calc
    second.state
    _ = { second.state.visible with
          cache := second.state.cache, lastError := second.state.lastError } := rfl
    _ = { first.state with lastError := second.state.lastError } := by
      rw [visible_eq, cache_eq]
      rfl

/-- The answer of a backend with seven hits to the search for a word, for a batch. -/
def wordBatch (start : Nat) : Except Backend.GatewayError Batch :=
  match batchQuery smallSetup (wordSearch "word") start with
  | .error _ => .ok { hits := [], total := 0 }
  | .ok query => .ok (rankedAnswers 7 query)

/-- A search that is answered, and four page changes after it: to a page in the cache, to two
pages of the same batch, and to a page behind the last hit. -/
def overlappingPages : List (Event Backend.GatewayError) :=
  [.start (.search (wordSearch "word") none 1), .resume 0 (wordBatch 0),
    .start (.changePage 2), .start (.changePage 3), .start (.changePage 5),
    .start (.changePage 4)]

/-- The backend is down for the second of these page changes. -/
def thirdRequestFails (request : Nat) : Option Backend.GatewayError :=
  if request = 3 then some (.endpoint (.unreachable "")) else none

/-- The four page changes one after another, and all of them section by section from the last one
on, show the last hit. -/
theorem completion_order_of_overlappingPages :
    ∃ world first second : World Backend.GatewayError,
      (World.initial 0 2000).run? smallSetup overlappingPages = some world ∧
      world.runOrder? smallSetup (rankedAnswers 7) thirdRequestFails
        [0, 0, 0, 0, 0, 0, 0, 0, 0, 0] = some first ∧
      world.runOrder? smallSetup (rankedAnswers 7) thirdRequestFails
        [3, 2, 1, 0, 3, 2, 0, 0, 0, 0] = some second ∧
      first.state.displayed.map Hit.textId = [6] ∧
      ∃ lastError, second.state = { first.state with lastError } := by
  have summary :
      ((World.initial 0 2000).run? smallSetup overlappingPages).map
          (fun world =>
            (world.state.isSearching, world.pageRequests,
              (world.runOrder? smallSetup (rankedAnswers 7) thirdRequestFails
                [0, 0, 0, 0, 0, 0, 0, 0, 0, 0]).map
                fun first => (first.pending.isEmpty, first.state.displayed.map Hit.textId),
              (world.runOrder? smallSetup (rankedAnswers 7) thirdRequestFails
                [3, 2, 1, 0, 3, 2, 0, 0, 0, 0]).map fun second => second.pending.isEmpty)) =
        some (false, [2, 3, 4, 5], some (true, [6]), some true) := by
    rfl
  have given :
      ∃ query, ((World.initial 0 2000).run? smallSetup overlappingPages).map World.answers =
        some [{ generation := 1, query, batch := rankedAnswers 7 query }] :=
    ⟨_, rfl⟩
  obtain ⟨world, runs, equal⟩ := Option.map_eq_some_iff.1 summary
  simp only [Prod.mk.injEq, Option.map_eq_some_iff] at equal
  obtain ⟨rests, requests_eq, ⟨first, firstRuns, firstEnded, shown⟩, second, secondRuns,
    secondEnded⟩ := equal
  obtain ⟨query, answers_eq⟩ := given
  rw [runs, Option.map_some, Option.some.injEq] at answers_eq
  have honest : ∀ answer ∈ world.answers, answer.batch = rankedAnswers 7 answer.query := by
    rw [answers_eq, List.forall_mem_singleton]
  have quiet : ∀ request ∈ world.pageRequests,
      request ∈ (World.initial 0 2000).quietRequests smallSetup overlappingPages := by
    rw [requests_eq]
    decide
  have agree := (completion_order_does_not_matter (rankedAnswers 7) thirdRequestFails runs honest
    rests quiet).2 _ _ first second firstRuns (by simpa using firstEnded) secondRuns
      (by simpa using secondEnded)
  exact ⟨world, first, second, runs, firstRuns, secondRuns, shown, agree⟩

end Session
end Concordance
