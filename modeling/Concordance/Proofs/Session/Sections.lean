import Concordance.Proofs.Outcome
import Concordance.Proofs.Session.Interleaving
import Mathlib.Tactic.ByContra

/-!
# What the sections of a call do

One statement for each section: what it takes to begin a call and what is under way
then, what an answer changes when it is current and that it changes nothing when it
comes late, and what showing and settling a page do. `Pending.Effect` puts these
together for the calls under way. Later proofs about schedules go through its cases and
do not open the sections again.
-/

namespace Concordance
namespace Session

variable {ε : Type}

/-- Pages are counted from one. -/
theorem checkPage_eq_ok_iff {page : Int} {number : Nat} :
    checkPage page = .ok number ↔ 1 ≤ page ∧ page.toNat = number := by
  unfold checkPage
  split
  next before => exact iff_of_false nofun fun accepted => by omega
  next positive => simp [Int.not_lt.1 positive]

/-- The query for a page is the one for the batch of its first rank. -/
theorem pageQuery_eq_ok_iff
    {setup : Setup}
    {search : Search}
    {page : Int}
    {query : Query} :
    pageQuery setup search page = .ok query ↔
      1 ≤ page ∧
        batchQuery setup search (setup.paging.batchStart (setup.paging.pageStart page.toNat)) =
          .ok query := by
  unfold pageQuery
  simp only [bind_eq_ok_iff, checkPage_eq_ok_iff, mapError_eq_ok_iff, and_assoc,
    exists_and_left, exists_eq_left']

namespace State

/-- The state in which a search runs. -/
def searchingFor (state : State ε) (active : Search) : State ε :=
  { state with
    generation := state.generation + 1
    pageRequest := state.pageRequest + 1
    search := some active
    isSearching := true
    isChangingPage := false
    hasSearched := true
    lastError := none
    status := .searching }

/-- The search that is under way when it has begun. -/
def searchCall
    (setup : Setup)
    (state : State ε)
    (active : Search)
    (page : Nat)
    (query : Query) : SearchCall :=
  { generation := state.generation + 1
    search := active
    page
    batchStart := setup.paging.batchStart (setup.paging.pageStart page)
    query }

/-- The state in which a page change runs. -/
def changingPage (state : State ε) : State ε :=
  { state with
    pageRequest := state.pageRequest + 1
    isChangingPage := true
    lastError := if state.status = .pageFailed then none else state.lastError
    status :=
      if state.status = .ready ∨ state.status = .pageFailed then .changingPage
      else state.status }

/-- The page change that is under way when it has begun. -/
def pageCall (setup : Setup) (state : State ε) (page : Nat) : PageCall :=
  { generation := state.generation
    request := state.pageRequest + 1
    page
    target := if state.cache.has (setup.paging.pageStart page) then none else state.search }

/-- The state in which a search has failed: nothing is held or shown. -/
def searchFailed (state : State ε) (failure : ε) : State ε :=
  { state with
    cache := .empty
    displayed := []
    total := 0
    lastError := some failure
    isSearching := false
    status := .failed }

/-- The state in which a search is answered: it holds the batch and shows the page. -/
def searchAnswered
    (setup : Setup)
    (state : State ε)
    (call : SearchCall)
    (batch : Batch) :
    State ε :=
  let cache := writeBatch setup.paging .empty call.batchStart batch.hits
  { state with
    cache
    total := batch.total
    displayed := pageHits setup.paging cache call.page
    page := call.page
    searchQuery := call.search.simpleText?.getD state.searchQuery
    isSearching := false
    status := .ready }

/-- The state in which the batch of a page is held. -/
def batchStored (setup : Setup) (state : State ε) (call : PageCall) (batch : Batch) : State ε :=
  { state with
    cache := writeBatch setup.paging state.cache (call.batchStart setup) batch.hits }

/-- The state in which a page is on display. -/
def pageShown (setup : Setup) (state : State ε) (call : PageCall) : State ε :=
  { state with
    displayed := pageHits setup.paging state.cache call.page
    page := call.page }

/-- The state in which a page change has ended. -/
def settled (state : State ε) (failed : Bool) : State ε :=
  { state with
    isChangingPage := false
    status :=
      if state.status = .changingPage then
        if failed then .pageFailed else .ready
      else state.status }

@[simp] theorem get?_searchFailed (state : State ε) (failure : ε) (rank : Nat) :
    (state.searchFailed failure).cache.get? rank = none :=
  Cache.get?_empty rank

@[simp] theorem get?_searchAnswered
    (setup : Setup)
    (state : State ε)
    (call : SearchCall)
    (batch : Batch)
    (rank : Nat) :
    (state.searchAnswered setup call batch).cache.get? rank =
      setup.paging.hitAt? call.batchStart batch.hits rank := by
  rw [searchAnswered, get?_writeBatch, Cache.get?_empty, Option.or_none]

@[simp] theorem get?_batchStored
    (setup : Setup)
    (state : State ε)
    (call : PageCall)
    (batch : Batch)
    (rank : Nat) :
    (state.batchStored setup call batch).cache.get? rank =
      (setup.paging.hitAt? (call.batchStart setup) batch.hits rank).or
        (state.cache.get? rank) := by
  rw [batchStored, get?_writeBatch]

/-- A search begins when its page and its texts are accepted and it compiles. -/
theorem beginSearch_eq_ok_iff
    (setup : Setup)
    (state searching : State ε)
    (search : Search)
    (texts : Option Value)
    (page : Int)
    (call : SearchCall) :
    state.beginSearch setup search texts page = .ok (searching, call) ↔
      1 ≤ page ∧ ∃ active query,
        restrict search texts = .ok active ∧
        batchQuery setup active
          (setup.paging.batchStart (setup.paging.pageStart page.toNat)) = .ok query ∧
        searching = state.searchingFor active ∧
        call = state.searchCall setup active page.toNat query := by
  constructor
  · intro begins
    obtain ⟨number, accepted, restricts⟩ := exists_of_bind_eq_ok begins
    obtain ⟨positive, rfl⟩ := checkPage_eq_ok_iff.1 accepted
    obtain ⟨active, restricted, compiles⟩ := exists_of_bind_eq_ok restricts
    obtain ⟨query, asks, begun⟩ := exists_of_bind_eq_ok compiles
    cases begun
    exact ⟨positive, active, query, restricted, (pageQuery_eq_ok_iff.1 asks).2, rfl, rfl⟩
  · rintro ⟨positive, active, query, restricted, compiles, rfl, rfl⟩
    have asks := pageQuery_eq_ok_iff.2 ⟨positive, compiles⟩
    unfold beginSearch
    rw [checkPage_eq_ok_iff.2 ⟨positive, rfl⟩, ok_bind, restricted, ok_bind, asks]
    rfl

/-- A page change begins whenever its page is accepted. -/
theorem beginPageChange_eq_ok_iff
    (setup : Setup)
    (state changing : State ε)
    (page : Int)
    (call : PageCall) :
    state.beginPageChange setup page = .ok (changing, call) ↔
      1 ≤ page ∧ changing = state.changingPage ∧ call = state.pageCall setup page.toNat := by
  constructor
  · intro begins
    obtain ⟨number, accepted, begun⟩ := exists_of_bind_eq_ok begins
    obtain ⟨positive, rfl⟩ := checkPage_eq_ok_iff.1 accepted
    cases begun
    exact ⟨positive, rfl, rfl⟩
  · rintro ⟨positive, rfl, rfl⟩
    unfold beginPageChange
    rw [checkPage_eq_ok_iff.2 ⟨positive, rfl⟩]
    rfl

/-- A page change fetches for the active search. -/
theorem search_of_target
    {setup : Setup}
    {state : State ε}
    {page : Nat}
    {search : Search}
    (target_eq : (state.pageCall setup page).target = some search) :
    state.search = some search := by
  simp only [pageCall] at target_eq
  split at target_eq
  · cases target_eq
  · exact target_eq

/-- A selection touches nothing else. -/
theorem choose?_eq_some
    {state chosen : State ε}
    {choice : Choice}
    (accepted : state.choose? choice = some chosen) :
    ∃ texts textFilter genres collections dates,
      chosen = { state with texts, textFilter, genres, collections, dates } := by
  cases choice with
  | texts given =>
      cases read : given.toIntegers with
      | error cause =>
          simp [choose?, selectTexts, read, Except.map, Except.toOption] at accepted
      | ok ids =>
          simp only [choose?, selectTexts, read, Except.map, Except.toOption,
            Option.some.injEq] at accepted
          exact ⟨_, _, _, _, _, accepted.symm⟩
  | textFilter given => exact ⟨_, given, _, _, _, (Option.some.inj accepted).symm⟩
  | genres given => exact ⟨_, _, given, _, _, (Option.some.inj accepted).symm⟩
  | collections given => exact ⟨_, _, _, given, _, (Option.some.inj accepted).symm⟩
  | dates start finish =>
      cases read : state.dates.select start finish with
      | error cause =>
          simp [choose?, setDateRange, read, Except.map, Except.toOption] at accepted
      | ok dates =>
          simp only [choose?, setDateRange, read, Except.map, Except.toOption,
            Option.some.injEq] at accepted
          exact ⟨_, _, _, _, dates, accepted.symm⟩
  | noTexts => exact ⟨[], _, _, _, _, (Option.some.inj accepted).symm⟩

/-- How calls begin: a search that compiles, a page change, a reset, or a selection. -/
theorem start?_cases
    {setup : Setup}
    {state next : State ε}
    {call : Call}
    {calls : List Pending}
    (starts : state.start? setup call = some (next, calls)) :
    (∃ active page query,
        batchQuery setup active
          (setup.paging.batchStart (setup.paging.pageStart page)) = .ok query ∧
        next = state.searchingFor active ∧
        calls = [.searching (state.searchCall setup active page query)]) ∨
      (∃ page,
        next = state.changingPage ∧
        calls = [(state.pageCall setup page).afterBegin setup]) ∨
      (next = state.reset ∧ calls = []) ∨
      ((∃ texts textFilter genres collections dates,
        next = { state with texts, textFilter, genres, collections, dates }) ∧
        calls = []) := by
  cases call with
  | search search texts page =>
      obtain ⟨⟨searching, call⟩, begins, equal⟩ := Option.map_eq_some_iff.1 starts
      cases equal
      cases outcome : state.beginSearch setup search texts page with
      | error cause => simp [outcome, Except.toOption] at begins
      | ok pair =>
          simp only [outcome, Except.toOption, Option.some.injEq] at begins
          subst begins
          obtain ⟨_, active, query, _, compiles, rfl, rfl⟩ :=
            (beginSearch_eq_ok_iff ..).1 outcome
          exact .inl ⟨active, page.toNat, query, compiles, rfl, rfl⟩
  | changePage page =>
      obtain ⟨⟨changing, call⟩, begins, equal⟩ := Option.map_eq_some_iff.1 starts
      cases equal
      cases outcome : state.beginPageChange setup page with
      | error cause => simp [outcome, Except.toOption] at begins
      | ok pair =>
          simp only [outcome, Except.toOption, Option.some.injEq] at begins
          subst begins
          obtain ⟨_, rfl, rfl⟩ := (beginPageChange_eq_ok_iff ..).1 outcome
          exact .inr (.inl ⟨page.toNat, rfl, rfl⟩)
  | reset =>
      cases starts
      exact .inr (.inr (.inl ⟨rfl, rfl⟩))
  | choose choice =>
      obtain ⟨chosen, accepted, equal⟩ := Option.map_eq_some_iff.1 starts
      cases equal
      exact .inr (.inr (.inr ⟨choose?_eq_some accepted, rfl⟩))

section Effects

variable [Worded ε]

theorem finishSearch_of_superseded
    {setup : Setup}
    {state : State ε}
    {call : SearchCall}
    (superseded : call.generation ≠ state.generation)
    (outcome : Except ε Batch) :
    (state.finishSearch setup call outcome).1 = state := by
  cases outcome <;> simp [finishSearch, failSearch, completeSearch, superseded]

theorem finishSearch_error
    {setup : Setup}
    {state : State ε}
    {call : SearchCall}
    (newest : call.generation = state.generation)
    (failure : ε) :
    (state.finishSearch setup call (.error failure)).1 = state.searchFailed failure := by
  simp [finishSearch, failSearch, newest, searchFailed]

theorem finishSearch_ok
    {setup : Setup}
    {state : State ε}
    {call : SearchCall}
    (newest : call.generation = state.generation)
    (batch : Batch) :
    (state.finishSearch setup call (.ok batch)).1 =
      state.searchAnswered setup call batch := by
  simp [finishSearch, completeSearch, newest, searchAnswered]

theorem receivePage_of_superseded
    {setup : Setup}
    {state : State ε}
    {call : PageCall}
    (superseded : call.generation ≠ state.generation)
    (outcome : Except ε Batch) :
    (state.receivePage setup call outcome).1.1 = state := by
  cases outcome <;> simp [receivePage, superseded]

theorem receivePage_error
    {setup : Setup}
    {state : State ε}
    {call : PageCall}
    (newest : call.generation = state.generation)
    (failure : ε) :
    (state.receivePage setup call (.error failure)).1 =
      ({ state with lastError := some failure }, .failed) := by
  simp [receivePage, newest]

theorem receivePage_ok
    {setup : Setup}
    {state : State ε}
    {call : PageCall}
    (newest : call.generation = state.generation)
    (batch : Batch) :
    (state.receivePage setup call (.ok batch)).1 =
      (state.batchStored setup call batch, .stored) := by
  simp [receivePage, newest, batchStored]

end Effects

/-- Whether a page change shows its page: it is the newest one, its search is the
active one, and some rank of the page has a hit. -/
structure Shows (setup : Setup) (state : State ε) (call : PageCall) : Prop where
  generation_eq : call.generation = state.generation
  request_eq : call.request = state.pageRequest
  nonempty : pageHits setup.paging state.cache call.page ≠ []

/-- A page that is shown replaces the page on display. -/
theorem showPage_of_shows
    {setup : Setup}
    {state : State ε}
    {call : PageCall}
    (shows : state.Shows setup call) :
    (state.showPage setup call).1 = state.pageShown setup call := by
  have current := And.intro shows.generation_eq shows.request_eq
  have visible : (pageHits setup.paging state.cache call.page).isEmpty = false := by
    simpa using shows.nonempty
  rw [showPage, if_pos current]
  simp only [visible, Bool.false_eq_true, if_false, pageShown]

/-- A page that is not shown leaves everything as it is. -/
theorem showPage_of_not_shows
    {setup : Setup}
    {state : State ε}
    {call : PageCall}
    (hidden : ¬state.Shows setup call) :
    (state.showPage setup call).1 = state := by
  rw [showPage]
  split
  · rename_i current
    have empty : (pageHits setup.paging state.cache call.page).isEmpty = true := by
      by_contra visible
      exact hidden ⟨current.1, current.2, by simpa using visible⟩
    simp only [empty, if_true]
  · rfl

theorem settlePage_of_superseded
    {state : State ε}
    {call : PageCall}
    (superseded : call.request ≠ state.pageRequest)
    (failed : Bool) :
    state.settlePage call failed = state :=
  if_neg superseded

theorem settlePage_of_newest
    {state : State ε}
    {call : PageCall}
    (newest : call.request = state.pageRequest)
    (failed : Bool) :
    state.settlePage call failed = state.settled failed :=
  if_pos newest

end State

namespace Pending

/-- What a section of a call does to the state. A search takes its failure or its answer, a
page change notes its failure, stores its batch, shows its page and settles; and a section
that is superseded or finds nothing leaves the state as it is. -/
inductive Effect (setup : Setup) (state : State ε) (outcome : Except ε Batch) :
    Pending -> State ε -> Prop
  | late
      {part : Pending}
      (asked : part.request? setup ≠ none)
      (superseded : part.generation ≠ state.generation) :
      Effect setup state outcome part state
  | searchFailed
      {call : SearchCall}
      {failure : ε}
      (newest : call.generation = state.generation)
      (fails : outcome = .error failure) :
      Effect setup state outcome (.searching call) (state.searchFailed failure)
  | searchAnswered
      {call : SearchCall}
      {batch : Batch}
      (newest : call.generation = state.generation)
      (succeeds : outcome = .ok batch) :
      Effect setup state outcome (.searching call) (state.searchAnswered setup call batch)
  | fetchFailed
      {call : PageCall}
      {query : Query}
      {failure : ε}
      (newest : call.generation = state.generation)
      (fails : outcome = .error failure) :
      Effect setup state outcome (.fetching call query) { state with lastError := some failure }
  | fetched
      {call : PageCall}
      {query : Query}
      {batch : Batch}
      (newest : call.generation = state.generation)
      (succeeds : outcome = .ok batch) :
      Effect setup state outcome (.fetching call query) (state.batchStored setup call batch)
  | shown
      {call : PageCall}
      (shows : state.Shows setup call) :
      Effect setup state outcome (.showing call) (state.pageShown setup call)
  | hidden
      {call : PageCall}
      (hidden : ¬state.Shows setup call) :
      Effect setup state outcome (.showing call) state
  | settled
      {call : PageCall}
      {failed : Bool}
      (newest : call.request = state.pageRequest) :
      Effect setup state outcome (.settling call failed) (state.settled failed)
  | overtaken
      {call : PageCall}
      {failed : Bool}
      (superseded : call.request ≠ state.pageRequest) :
      Effect setup state outcome (.settling call failed) state

/-- Every section does one of these things. -/
theorem resume_effect [Worded ε]
    (setup : Setup)
    (state : State ε)
    (outcome : Except ε Batch)
    (part : Pending) :
    part.Effect setup state outcome (part.resume setup state outcome).state := by
  cases part with
  | searching call =>
      simp only [resume]
      by_cases newest : call.generation = state.generation
      · cases outcome with
        | error failure =>
            rw [State.finishSearch_error newest]
            exact .searchFailed newest rfl
        | ok batch =>
            rw [State.finishSearch_ok newest]
            exact .searchAnswered newest rfl
      · rw [State.finishSearch_of_superseded newest]
        exact .late (by simp [request?]) newest
  | fetching call query =>
      simp only [resume]
      by_cases newest : call.generation = state.generation
      · cases outcome with
        | error failure =>
            rw [State.receivePage_error newest]
            exact .fetchFailed newest rfl
        | ok batch =>
            rw [State.receivePage_ok newest]
            exact .fetched newest rfl
      · rw [State.receivePage_of_superseded newest]
        exact .late (by simp [request?]) newest
  | showing call =>
      simp only [resume]
      by_cases shows : state.Shows setup call
      · rw [State.showPage_of_shows shows]
        exact .shown shows
      · rw [State.showPage_of_not_shows shows]
        exact .hidden shows
  | settling call failed =>
      simp only [resume]
      by_cases newest : call.request = state.pageRequest
      · rw [State.settlePage_of_newest newest]
        exact .settled newest
      · rw [State.settlePage_of_superseded newest]
        exact .overtaken newest

/-- No section of a call under way changes the counters or the active search. -/
theorem resume_frame [Worded ε]
    (setup : Setup)
    (state : State ε)
    (outcome : Except ε Batch)
    (part : Pending) :
    (part.resume setup state outcome).state.generation = state.generation ∧
      (part.resume setup state outcome).state.pageRequest = state.pageRequest ∧
      (part.resume setup state outcome).state.search = state.search := by
  have effect := resume_effect setup state outcome part
  generalize (part.resume setup state outcome).state = next at effect ⊢
  cases effect <;> exact ⟨rfl, rfl, rfl⟩

/-- A call that goes on is the same call, and waits for no further answer. -/
theorem of_mem_resume_pending [Worded ε]
    {setup : Setup}
    {state : State ε}
    {outcome : Except ε Batch}
    {part rest : Pending}
    (remains : rest ∈ (part.resume setup state outcome).pending) :
    rest.generation = part.generation ∧ rest.pageCall? = part.pageCall? ∧
      rest.request? setup = none := by
  cases part with
  | searching call => cases remains
  | fetching call query =>
      cases List.mem_singleton.1 remains
      cases (state.receivePage setup call outcome).1.2 <;> exact ⟨rfl, rfl, rfl⟩
  | showing call =>
      cases List.mem_singleton.1 remains
      exact ⟨rfl, rfl, rfl⟩
  | settling call failed => cases remains

theorem afterBegin_pageCall? (setup : Setup) (call : PageCall) :
    (call.afterBegin setup).pageCall? = some call ∧
      (call.afterBegin setup).generation = call.generation := by
  unfold PageCall.afterBegin
  split <;> exact ⟨rfl, rfl⟩

end Pending
end Session
end Concordance
