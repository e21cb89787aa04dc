import Concordance.Proofs.Outcome
import Concordance.Proofs.Session.Generations
import Concordance.Proofs.Session.Superseded

/-!
# Sessions after a reset

A reset returns a session to its beginning, but calls that began before it may still be under
way. The main statement says that this makes no difference: whatever begins after the reset, and
however the sections of the new calls run between those of the old ones, the session is at every
moment what a new session would be in which the old calls had never been made.

The two sessions differ in their counters, by a constant: the counters of the new session advanced
by their values at the reset are those of the session that was reset. No section looks at the
counters but to compare them, so it does the same in both; and a section of an old call does
nothing, since its generation has passed.
-/

namespace Concordance
namespace Session

variable {ε : Type}

section Advancing

variable (generations requests : Nat)

/-- A state with its counters advanced. -/
def State.advanced (state : State ε) : State ε :=
  { state with
    generation := state.generation + generations
    pageRequest := state.pageRequest + requests }

/-- A search in a later generation. -/
def SearchCall.advanced (call : SearchCall) : SearchCall :=
  { call with generation := call.generation + generations }

/-- A page change in a later generation, under a later request. -/
def PageCall.advanced (call : PageCall) : PageCall :=
  { call with
    generation := call.generation + generations
    request := call.request + requests }

/-- A call under way in a later generation. -/
def Pending.advanced : Pending -> Pending
  | .searching call => .searching (call.advanced generations)
  | .fetching call query => .fetching (call.advanced generations requests) query
  | .showing call => .showing (call.advanced generations requests)
  | .settling call failed => .settling (call.advanced generations requests) failed

/-- An answer to a call of a later generation. -/
def Answer.advanced (answer : Answer) : Answer :=
  { answer with generation := answer.generation + generations }

/-- A world with all counters advanced. -/
def World.advanced (world : World ε) : World ε where
  state := world.state.advanced generations requests
  pending := world.pending.map (Pending.advanced generations requests)
  answers := world.answers.map (Answer.advanced generations)

@[simp] theorem Pending.advanced_generation (part : Pending) :
    (part.advanced generations requests).generation = part.generation + generations := by
  cases part <;> rfl

@[simp] theorem Pending.advanced_request? (setup : Setup) (part : Pending) :
    (part.advanced generations requests).request? setup = part.request? setup := by
  cases part <;> rfl

/-- A page change goes on in the same way in a later generation. -/
theorem PageCall.advanced_afterBegin (setup : Setup) (call : PageCall) :
    (call.advanced generations requests).afterBegin setup =
      (call.afterBegin setup).advanced generations requests := by
  have query_eq : (call.advanced generations requests).query? setup = call.query? setup := rfl
  unfold PageCall.afterBegin
  rw [query_eq]
  cases call.query? setup with
  | error cause => rfl
  | ok query? => cases query? <;> rfl

/-- A search begins with advanced counters as it begins without. -/
theorem State.advanced_beginSearch
    (setup : Setup)
    (state : State ε)
    (search : Search)
    (texts : Option Value)
    (page : Int) :
    (state.advanced generations requests).beginSearch setup search texts page =
      (state.beginSearch setup search texts page).map fun (searching, call) =>
        (searching.advanced generations requests, call.advanced generations) := by
  simp only [State.beginSearch, bind, Except.bind, pure, Except.pure]
  cases checkPage page with
  | error cause => rfl
  | ok number =>
      cases restrict search texts with
      | error cause => rfl
      | ok active =>
          cases compiles : pageQuery setup active page with
          | error cause => simp only [compiles, Except.map]
          | ok query =>
              simp only [compiles, Except.map, State.advanced, SearchCall.advanced,
                Nat.add_right_comm]

/-- A page change begins with advanced counters as it begins without. -/
theorem State.advanced_beginPageChange
    (setup : Setup)
    (state : State ε)
    (page : Int) :
    (state.advanced generations requests).beginPageChange setup page =
      (state.beginPageChange setup page).map fun (changing, call) =>
        (changing.advanced generations requests, call.advanced generations requests) := by
  simp only [State.beginPageChange, bind, Except.bind, pure, Except.pure]
  cases checkPage page with
  | error cause => rfl
  | ok number =>
      simp only [Except.map, State.advanced, PageCall.advanced, Nat.add_right_comm]
      rfl

/-- A selection is made with advanced counters as it is made without. -/
theorem State.advanced_choose? (state : State ε) (choice : Choice) :
    (state.advanced generations requests).choose? choice =
      (state.choose? choice).map (State.advanced generations requests) := by
  cases choice with
  | texts given => cases read : given.toIntegers <;> simp [choose?, selectTexts, read] <;> rfl
  | dates start finish =>
      have dates_eq : (state.advanced generations requests).dates = state.dates := rfl
      cases read : state.dates.select start finish <;>
        simp [choose?, setDateRange, dates_eq, read] <;> rfl
  | _ => rfl

/-- Every call begins with advanced counters as it begins without, or is refused in both cases. -/
theorem State.advanced_start? (setup : Setup) (state : State ε) (call : Call) :
    (state.advanced generations requests).start? setup call =
      (state.start? setup call).map fun (next, calls) =>
        (next.advanced generations requests,
          calls.map (Pending.advanced generations requests)) := by
  cases call with
  | search search texts page =>
      simp only [start?, advanced_beginSearch]
      cases state.beginSearch setup search texts page <;> rfl
  | changePage page =>
      simp only [start?, advanced_beginPageChange]
      cases state.beginPageChange setup page with
      | error cause => rfl
      | ok begun =>
          simp only [Except.map, Except.toOption, Option.map_some, PageCall.advanced_afterBegin,
            List.map_singleton]
  | reset =>
      simp only [start?, Option.map_some, reset, advanced, List.map_nil, Nat.add_right_comm]
  | choose choice =>
      simp only [start?, advanced_choose?, Option.map_map]
      rfl

/-- The answer to a search is taken with advanced counters as it is taken without. -/
theorem State.advanced_finishSearch [Worded ε]
    (setup : Setup)
    (state : State ε)
    (call : SearchCall)
    (outcome : Except ε Batch) :
    ((state.advanced generations requests).finishSearch setup (call.advanced generations)
        outcome).1 =
      (state.finishSearch setup call outcome).1.advanced generations requests := by
  by_cases newest : call.generation = state.generation
  · have stillNewest :
        (call.advanced generations).generation =
          (state.advanced generations requests).generation :=
      congrArg (· + generations) newest
    cases outcome with
    | error failure =>
        rw [finishSearch_error newest, finishSearch_error stillNewest]
        rfl
    | ok batch =>
        rw [finishSearch_ok newest, finishSearch_ok stillNewest]
        rfl
  · have stillSuperseded :
        (call.advanced generations).generation ≠
          (state.advanced generations requests).generation :=
      fun same => newest (Nat.add_right_cancel same)
    rw [finishSearch_of_superseded newest, finishSearch_of_superseded stillSuperseded]

/-- The answer to a page change is taken with advanced counters as it is taken without. -/
theorem State.advanced_receivePage [Worded ε]
    (setup : Setup)
    (state : State ε)
    (call : PageCall)
    (outcome : Except ε Batch) :
    ((state.advanced generations requests).receivePage setup (call.advanced generations requests)
        outcome).1 =
      ((state.receivePage setup call outcome).1.1.advanced generations requests,
        (state.receivePage setup call outcome).1.2) := by
  have same :
      (call.advanced generations requests).generation =
          (state.advanced generations requests).generation ↔
        call.generation = state.generation :=
    Nat.add_right_cancel_iff
  by_cases newest : call.generation = state.generation
  · cases outcome with
    | error failure =>
        rw [receivePage_error newest, receivePage_error (same.2 newest)]
        rfl
    | ok batch =>
        rw [receivePage_ok newest, receivePage_ok (same.2 newest)]
        rfl
  · cases outcome with
    | error failure => simp only [receivePage, if_neg newest, if_neg (mt same.1 newest)]
    | ok batch => simp only [receivePage, if_neg newest, if_neg (mt same.1 newest)]

/-- A page is shown with advanced counters when it is shown without. -/
theorem State.advanced_showPage (setup : Setup) (state : State ε) (call : PageCall) :
    ((state.advanced generations requests).showPage setup
        (call.advanced generations requests)).1 =
      (state.showPage setup call).1.advanced generations requests := by
  have same :
      (state.advanced generations requests).Shows setup (call.advanced generations requests) ↔
        state.Shows setup call := by
    constructor
    · rintro ⟨generation_eq, request_eq, nonempty⟩
      exact ⟨Nat.add_right_cancel generation_eq, Nat.add_right_cancel request_eq, nonempty⟩
    · rintro ⟨generation_eq, request_eq, nonempty⟩
      exact ⟨congrArg (· + generations) generation_eq, congrArg (· + requests) request_eq,
        nonempty⟩
  by_cases shows : state.Shows setup call
  · rw [showPage_of_shows shows, showPage_of_shows (same.2 shows)]
    rfl
  · rw [showPage_of_not_shows shows, showPage_of_not_shows (mt same.1 shows)]

/-- A page change settles with advanced counters as it settles without. -/
theorem State.advanced_settlePage (state : State ε) (call : PageCall) (failed : Bool) :
    (state.advanced generations requests).settlePage (call.advanced generations requests) failed =
      (state.settlePage call failed).advanced generations requests := by
  by_cases newest : call.request = state.pageRequest
  · have stillNewest :
        (call.advanced generations requests).request =
          (state.advanced generations requests).pageRequest :=
      congrArg (· + requests) newest
    rw [settlePage_of_newest newest, settlePage_of_newest stillNewest]
    rfl
  · have stillSuperseded :
        (call.advanced generations requests).request ≠
          (state.advanced generations requests).pageRequest :=
      fun same => newest (Nat.add_right_cancel same)
    rw [settlePage_of_superseded newest, settlePage_of_superseded stillSuperseded]

theorem advanced_answered (generation : Nat) (query : Query) (outcome : Except ε Batch) :
    answered (generation + generations) query outcome =
      (answered generation query outcome).map (Answer.advanced generations) := by
  cases outcome <;> rfl

/-- A section does with advanced counters what it does without. -/
theorem Pending.advanced_resume [Worded ε]
    (setup : Setup)
    (state : State ε)
    (outcome : Except ε Batch)
    (part : Pending) :
    (part.advanced generations requests).resume setup (state.advanced generations requests)
        outcome =
      (part.resume setup state outcome).advanced generations requests := by
  cases part with
  | searching call =>
      simp only [advanced, resume, World.advanced, State.advanced_finishSearch, List.map_nil,
        ← advanced_answered]
      rfl
  | fetching call query =>
      simp only [advanced, resume, World.advanced, State.advanced_receivePage,
        ← advanced_answered, List.map_singleton]
      cases (state.receivePage setup call outcome).1.2 <;> rfl
  | showing call =>
      simp only [advanced, resume, World.advanced, State.advanced_showPage, List.map_singleton,
        List.map_nil]
  | settling call failed =>
      simp only [advanced, resume, World.advanced, State.advanced_settlePage, List.map_nil]

end Advancing

/-- A window of dates is selected inside the bounds that there are. -/
theorem DateRange.full_of_select
    {range selected : DateRange}
    {start finish : Int}
    (accepted : range.select start finish = .ok selected) :
    selected.full = range.full := by
  unfold DateRange.select at accepted
  split at accepted
  · cases accepted
  · cases accepted
    rfl

/-- No selection moves the bounds of dates. -/
theorem State.choose?_bounds
    {state chosen : State ε}
    {choice : Choice}
    (accepted : state.choose? choice = some chosen) :
    chosen.dates.full = state.dates.full := by
  cases choice with
  | texts given =>
      obtain ⟨ids, _, rfl⟩ := map_eq_ok (eq_ok_of_toOption_eq_some accepted)
      rfl
  | dates start finish =>
      obtain ⟨dates, selects, rfl⟩ := map_eq_ok (eq_ok_of_toOption_eq_some accepted)
      exact DateRange.full_of_select selects
  | _ =>
      cases accepted
      rfl

/-- No call moves the bounds of dates. -/
theorem State.start?_bounds
    {setup : Setup}
    {state next : State ε}
    {call : Call}
    {calls : List Pending}
    (starts : state.start? setup call = some (next, calls)) :
    next.dates.full = state.dates.full := by
  cases call with
  | search search texts page =>
      obtain ⟨⟨searching, call⟩, begins, equal⟩ := Option.map_eq_some_iff.1 starts
      cases equal
      obtain ⟨_, active, query, _, _, rfl, _⟩ :=
        (beginSearch_eq_ok_iff ..).1 (eq_ok_of_toOption_eq_some begins)
      rfl
  | changePage page =>
      obtain ⟨⟨changing, call⟩, begins, equal⟩ := Option.map_eq_some_iff.1 starts
      cases equal
      obtain ⟨_, rfl, _⟩ := (beginPageChange_eq_ok_iff ..).1 (eq_ok_of_toOption_eq_some begins)
      rfl
  | reset =>
      cases starts
      rfl
  | choose choice =>
      obtain ⟨chosen, accepted, equal⟩ := Option.map_eq_some_iff.1 starts
      cases equal
      exact choose?_bounds accepted

/-- Whether a call began in a generation or in a later one. -/
def Pending.isSince (first : Nat) (part : Pending) : Bool :=
  decide (first ≤ part.generation)

@[simp] theorem Pending.isSince_advanced (first requests : Nat) (part : Pending) :
    (part.advanced first requests).isSince first = true := by
  simp [isSince]

theorem filter_isSince_map_advanced (first requests : Nat) (calls : List Pending) :
    (calls.map (Pending.advanced first requests)).filter (Pending.isSince first) =
      calls.map (Pending.advanced first requests) := by
  rw [List.filter_eq_self, List.forall_mem_map]
  exact fun call _ => call.isSince_advanced first requests

theorem filter_since_map_advanced (first : Nat) (answers : List Answer) :
    (answers.map (Answer.advanced first)).filter (fun answer => first ≤ answer.generation) =
      answers.map (Answer.advanced first) := by
  rw [List.filter_eq_self, List.forall_mem_map]
  intro answer _
  simp [Answer.advanced]

namespace World

/-- The calls of a generation and of all later ones, with what is left of a world without the
others. -/
def since (first : Nat) (world : World ε) : World ε where
  state := world.state
  pending := world.pending.filter (Pending.isSince first)
  answers := world.answers.filter fun answer => first ≤ answer.generation

/-- An event as it is seen when only the calls since a generation are counted: a section of an
older call is none, and the places of the others are counted without the older ones. -/
def eventSince? (first : Nat) (world : World ε) : Event ε -> Option (Event ε)
  | .start call => some (.start call)
  | .resume place outcome =>
      if world.pending[place]?.all (Pending.isSince first) then
        some (.resume ((world.pending.take place).countP (Pending.isSince first)) outcome)
      else none

variable [Worded ε]

/-- The world after an event; one that cannot happen, as a call that is refused, changes
nothing. -/
def attempt (setup : Setup) (world : World ε) (event : Event ε) : World ε :=
  (world.next? setup event).getD world

/-- The world after a schedule of events, of which those that cannot happen are passed over. -/
def follow (setup : Setup) (world : World ε) (events : List (Event ε)) : World ε :=
  events.foldl (attempt setup) world

@[simp] theorem follow_nil (setup : Setup) (world : World ε) : world.follow setup [] = world := rfl

@[simp] theorem follow_cons
    (setup : Setup)
    (world : World ε)
    (event : Event ε)
    (events : List (Event ε)) :
    world.follow setup (event :: events) = (world.attempt setup event).follow setup events := rfl

theorem follow_append
    (setup : Setup)
    (world : World ε)
    (events others : List (Event ε)) :
    world.follow setup (events ++ others) = (world.follow setup events).follow setup others :=
  List.foldl_append

/-- The events of a schedule that belong to the calls since a generation, with the same
answers. -/
def eventsSince (setup : Setup) (first : Nat) (world : World ε) : List (Event ε) -> List (Event ε)
  | [] => []
  | event :: events =>
      (world.eventSince? first event).toList ++
        (world.attempt setup event).eventsSince setup first events

/-- What remains of a call that stood between others runs as it would alone. -/
theorem attempt_resume
    {setup : Setup}
    {world : World ε}
    {earlier later : List Pending}
    {part : Pending}
    (underWay : world.pending = earlier ++ part :: later)
    (outcome : Except ε Batch) :
    world.attempt setup (.resume earlier.length outcome) =
      world.resumed earlier later (part.resume setup world.state outcome) := by
  simp [attempt, next?, underWay]

theorem attempt_resume_of_none
    {setup : Setup}
    {world : World ε}
    {place : Nat}
    (absent : world.pending[place]? = none)
    (outcome : Except ε Batch) :
    world.attempt setup (.resume place outcome) = world := by
  simp [attempt, next?, absent]

end World

variable [Worded ε]

/-- Schedules stay among the worlds that can be reached, whatever they attempt. -/
theorem Reachable.attempt
    {setup : Setup}
    {world : World ε}
    (reachable : Reachable setup world)
    (event : Event ε) :
    Reachable setup (world.attempt setup event) := by
  cases happens : world.next? setup event with
  | none => rwa [World.attempt, happens]
  | some next =>
      rw [World.attempt, happens]
      exact reachable.next? happens

/-- A world reached after a reset, beside one that a new session has reached by the calls since the
reset alone: without the older calls, the one is the other with its counters advanced. -/
structure World.Renews
    (setup : Setup)
    (first requests : Nat)
    (world fresh : World ε) : Prop where
  reachable : Reachable setup world
  since_eq : world.since first = fresh.advanced first requests

section Simulation

variable
  {setup : Setup}
  {first requests : Nat}
  {world fresh : World ε}
  {earlier later : List Pending}
  {part : Pending}
  (renews : world.Renews setup first requests fresh)

include renews

namespace World.Renews

theorem state_eq : world.state = fresh.state.advanced first requests :=
  congrArg World.state renews.since_eq

theorem pending_eq :
    world.pending.filter (Pending.isSince first) =
      fresh.pending.map (Pending.advanced first requests) :=
  congrArg World.pending renews.since_eq

theorem answers_eq :
    world.answers.filter (fun answer => first ≤ answer.generation) =
      fresh.answers.map (Answer.advanced first) :=
  congrArg World.answers renews.since_eq

/-- A call begins in both sessions, or is refused by both. -/
theorem start (call : Call) :
    (world.attempt setup (.start call)).Renews setup first requests
      (fresh.attempt setup (.start call)) where
  reachable := renews.reachable.attempt (.start call)
  since_eq := by
    simp only [World.attempt, World.next?, renews.state_eq, State.advanced_start?]
    cases fresh.state.start? setup call with
    | none => exact renews.since_eq
    | some begun =>
        obtain ⟨next, calls⟩ := begun
        simp only [Option.map_some, Option.getD_some, World.since, World.advanced,
          World.begun_state, World.begun_pending, World.begun_answers, List.filter_append,
          List.map_append, renews.pending_eq, renews.answers_eq, filter_isSince_map_advanced]

/-- A section of an older call is seen by none of the calls since. -/
theorem since_resumed_of_older
    (underWay : world.pending = earlier ++ part :: later)
    (older : part.isSince first = false)
    (outcome : Except ε Batch) :
    (world.resumed earlier later (part.resume setup world.state outcome)).since first =
      world.since first := by
  have member : part ∈ world.pending := by simp [underWay]
  have generation_lt : part.generation < first := by simpa [Pending.isSince] using older
  have first_le : first ≤ world.state.generation := by
    rw [renews.state_eq]
    exact Nat.le_add_left _ _
  have superseded : part.generation ≠ world.state.generation := by omega
  have state_eq : (part.resume setup world.state outcome).state = world.state := by
    apply Pending.resume_of_superseded_generation superseded
    intro call isPage newest
    rw [Pending.generation_eq isPage] at superseded
    exact superseded ((renews.reachable.requestsInOrder part member call isPage).2 newest)
  have noneGoesOn :
      (part.resume setup world.state outcome).pending.filter (Pending.isSince first) = [] := by
    rw [List.filter_eq_nil_iff]
    intro rest remains
    simp only [Pending.isSince, (Pending.of_mem_resume_pending remains).1, decide_eq_true_eq]
    omega
  have noAnswer :
      (part.resume setup world.state outcome).answers.filter
        (fun answer => first ≤ answer.generation) = [] := by
    rw [List.filter_eq_nil_iff]
    intro answer taken
    simp only [(Pending.of_mem_resume_answers taken).1, decide_eq_true_eq]
    omega
  simp [World.since, state_eq, noneGoesOn, noAnswer, underWay, older]

/-- A section of a call since the reset does in both sessions the same. -/
theorem resumed_of_since
    (underWay : world.pending = earlier ++ part :: later)
    (began : part.isSince first = true)
    (outcome : Except ε Batch) :
    (world.attempt setup (.resume earlier.length outcome)).Renews setup first requests
      (fresh.attempt setup
        (.resume (earlier.countP (Pending.isSince first)) outcome)) where
  reachable := renews.reachable.attempt _
  since_eq := by
    have split_eq := renews.pending_eq
    rw [underWay, List.filter_append, List.filter_cons_of_pos began, eq_comm,
      List.map_eq_append_iff] at split_eq
    obtain ⟨ownEarlier, rest, freshUnderWay, earlier_eq, rest_eq⟩ := split_eq
    obtain ⟨own, ownLater, rfl, rfl, later_eq⟩ := List.map_eq_cons_iff.1 rest_eq
    have place_eq : earlier.countP (Pending.isSince first) = ownEarlier.length := by
      rw [List.countP_eq_length_filter, ← earlier_eq, List.length_map]
    rw [place_eq, World.attempt_resume underWay, World.attempt_resume freshUnderWay,
      renews.state_eq, Pending.advanced_resume]
    simp only [World.since, World.advanced, World.resumed_state, World.resumed_pending,
      World.resumed_answers, List.filter_append, List.map_append, ← earlier_eq, ← later_eq,
      renews.answers_eq, filter_isSince_map_advanced, filter_since_map_advanced]

/-- An event does in the new session what it does in the other, or is none there and changes
nothing. -/
theorem attempt (event : Event ε) :
    (world.attempt setup event).Renews setup first requests
      (fresh.follow setup (world.eventSince? first event).toList) := by
  cases event with
  | start call => exact renews.start call
  | resume place outcome =>
      cases found : world.pending[place]? with
      | none =>
          have beyond : world.pending.length ≤ place := List.getElem?_eq_none_iff.1 found
          have freshBeyond :
              fresh.pending[world.pending.countP (Pending.isSince first)]? = none := by
            rw [List.countP_eq_length_filter, renews.pending_eq, List.length_map]
            exact List.getElem?_eq_none (Nat.le_refl _)
          simp only [World.eventSince?, found, Option.all_none, if_true,
            List.take_of_length_le beyond, Option.toList_some, World.follow, List.foldl_cons,
            List.foldl_nil, World.attempt_resume_of_none found,
            World.attempt_resume_of_none freshBeyond]
          exact renews
      | some part =>
          have underWay := World.pending_eq_of_getElem? found
          have inside : place < world.pending.length :=
            (List.getElem?_eq_some_iff.1 found).1
          have place_eq : (world.pending.take place).length = place := by
            rw [List.length_take, Nat.min_eq_left (Nat.le_of_lt inside)]
          cases began : part.isSince first with
          | true =>
              have runs := renews.resumed_of_since underWay began outcome
              rw [place_eq] at runs
              simpa [World.eventSince?, found, began, World.follow] using runs
          | false =>
              have nothing : (world.eventSince? first (.resume place outcome)).toList = [] := by
                simp [World.eventSince?, found, began]
              rw [nothing]
              refine ⟨renews.reachable.attempt _, ?_⟩
              have runs :
                  world.attempt setup (.resume (world.pending.take place).length outcome) = _ :=
                World.attempt_resume underWay outcome
              rw [place_eq] at runs
              rw [runs, renews.since_resumed_of_older underWay began]
              exact renews.since_eq

end World.Renews
end Simulation

/-- The two sessions stay beside each other along every schedule. -/
theorem World.Renews.follow
    {setup : Setup}
    {first requests : Nat}
    {world fresh : World ε}
    (renews : world.Renews setup first requests fresh)
    (events : List (Event ε)) :
    (world.follow setup events).Renews setup first requests
      (fresh.follow setup (world.eventsSince setup first events)) := by
  induction events generalizing world fresh with
  | nil => exact renews
  | cons event events inductionHypothesis =>
      rw [World.follow_cons, World.eventsSince, World.follow_append]
      exact inductionHypothesis (renews.attempt event)

/-- No section moves the bounds of dates. -/
theorem Pending.resume_bounds
    (setup : Setup)
    (state : State ε)
    (outcome : Except ε Batch)
    (part : Pending) :
    (part.resume setup state outcome).state.dates.full = state.dates.full := by
  have effect := resume_effect setup state outcome part
  generalize (part.resume setup state outcome).state = next at effect ⊢
  cases effect <;> rfl

/-- No schedule moves the bounds of dates. -/
theorem World.follow_bounds
    (setup : Setup)
    (world : World ε)
    (events : List (Event ε)) :
    (world.follow setup events).state.dates.full = world.state.dates.full := by
  induction events generalizing world with
  | nil => rfl
  | cons event events inductionHypothesis =>
      rw [follow_cons, inductionHypothesis]
      cases happens : world.next? setup event with
      | none => rw [attempt, happens, Option.getD_none]
      | some next =>
          rw [attempt, happens, Option.getD_some]
          cases event with
          | start call =>
              obtain ⟨⟨state, calls⟩, starts, rfl⟩ := Option.map_eq_some_iff.1 happens
              exact State.start?_bounds starts
          | resume place outcome =>
              obtain ⟨part, _, rfl⟩ := Option.map_eq_some_iff.1 happens
              exact Pending.resume_bounds setup world.state outcome part

/-- Schedules stay among the worlds that can be reached, whatever they attempt. -/
theorem Reachable.follow
    {setup : Setup}
    {world : World ε}
    (reachable : Reachable setup world)
    (events : List (Event ε)) :
    Reachable setup (world.follow setup events) := by
  induction events generalizing world with
  | nil => exact reachable
  | cons event events inductionHypothesis => exact inductionHypothesis (reachable.attempt event)

/-- A session that was just reset stands beside a new one with the same bounds of dates. -/
theorem Reachable.renews_reset
    {setup : Setup}
    {world : World ε}
    (reachable : Reachable setup world)
    {least greatest : Int}
    (bounds : world.state.dates.full = .whole least greatest) :
    (world.attempt setup (.start .reset)).Renews setup (world.state.generation + 1)
      (world.state.pageRequest + 1) (.initial least greatest) where
  reachable := reachable.attempt _
  since_eq := by
    have resets : world.attempt setup (.start .reset) = world.begun world.state.reset [] := rfl
    have noCall :
        world.pending.filter (Pending.isSince (world.state.generation + 1)) = [] := by
      rw [List.filter_eq_nil_iff]
      intro part member
      have generation_le := reachable.generationsInOrder.pending_le part member
      simp only [Pending.isSince, decide_eq_true_eq]
      omega
    have noAnswer :
        world.answers.filter (fun answer => world.state.generation + 1 ≤ answer.generation) =
          [] := by
      rw [List.filter_eq_nil_iff]
      intro answer member
      have generation_le := reachable.generationsInOrder.answers_le answer member
      simp only [decide_eq_true_eq]
      omega
    simp only [World.since, World.begun_state, World.begun_pending, World.begun_answers, resets,
      List.append_nil, noCall, noAnswer, World.advanced, World.initial, State.initial,
      State.advanced, State.reset, bounds, Nat.zero_add, List.map_nil]

/-- A session that was reset is as good as a new one. Whatever had been called before the reset and
whatever is called after it, in whatever order the sections of all these calls run and whatever the
answers: at every moment the session is what a new session with the same bounds of dates would be
after the events of the new calls alone, with the same answers, but for the counters. The new calls
have asked the same queries, got the same answers to them, and wait for the answers to the same
ones; and every further call begins in both sessions or is refused by both. -/
theorem reset_session_is_as_new
    (setup : Setup)
    (least greatest : Int)
    (before events : List (Event ε)) :
    let old : World ε := (World.initial least greatest).follow setup before
    let renewed := old.attempt setup (.start .reset)
    let first := renewed.state.generation
    let after := renewed.follow setup events
    let fresh : World ε :=
      (World.initial least greatest).follow setup (renewed.eventsSince setup first events)
    after.state =
        { fresh.state with
          generation := after.state.generation
          pageRequest := after.state.pageRequest } ∧
      (after.since first).pending.map (Pending.request? setup) =
        fresh.pending.map (Pending.request? setup) ∧
      (after.since first).answers.map (fun answer => (answer.query, answer.batch)) =
        fresh.answers.map (fun answer => (answer.query, answer.batch)) ∧
      ∀ call, (after.state.start? setup call).isSome = (fresh.state.start? setup call).isSome := by
  intro old renewed first after fresh
  have bounds : old.state.dates.full = .whole least greatest :=
    World.follow_bounds setup (World.initial least greatest) before
  have reachable : Reachable setup old := (Reachable.initial least greatest).follow before
  have renews : after.Renews setup first (old.state.pageRequest + 1) fresh :=
    (reachable.renews_reset bounds).follow events
  refine ⟨?_, ?_, ?_, ?_⟩
  · rw [renews.state_eq]
    rfl
  · rw [renews.since_eq]
    simp [World.advanced]
  · rw [renews.since_eq]
    simp [World.advanced, Answer.advanced]
  · intro call
    rw [renews.state_eq, State.advanced_start?, Option.isSome_map]

/-- The late answer to a search from before a reset is no event of the search after it, which waits
at the second place beside an older page change and is alone in a new session. -/
example (late brought : Except Backend.GatewayError Batch) :
    let old : World Backend.GatewayError :=
      (World.initial 0 2000).follow smallSetup
        [.start (.search (wordSearch "old") none 1), .start (.changePage 1)]
    (old.attempt smallSetup (.start .reset)).eventsSince smallSetup 2
        [.start (.search (wordSearch "new") none 1), .resume 0 late, .resume 1 brought] =
      [.start (.search (wordSearch "new") none 1), .resume 0 brought] := by
  rfl

end Session
end Concordance
