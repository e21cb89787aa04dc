import Concordance.Proofs.Session.Flags
import Concordance.Proofs.Session.Uncached

/-!
# Page changes that no search disturbs

Where a backend answers by the query alone, the cache holds whole batches of the active search
whenever no search runs, in every schedule of calls. While a search runs, it still holds what
the search before it has left.

A page change that begins while no search runs is quiet. As long as its generation is the current
one, no search disturbs it: a page that it found in the cache stays there until it is shown. The
invariant tells the quiet page changes by their page requests, each of which is given out once.
-/

namespace Concordance
namespace Session

variable {ε : Type}

/-- The batch of a page is held as the answer for it has it, where a search is active. -/
def State.HoldsPage
    (setup : Setup)
    (answers : Query -> Batch)
    (state : State ε)
    (page : Nat) :
    Prop :=
  ∀ search, state.search = some search -> ∀ rank,
    setup.paging.batchStart rank = setup.paging.batchStart (setup.paging.pageStart page) ->
      state.cache.get? rank = uncachedHit? setup answers search rank

/-- In a cache of whole batches a page is held with its first rank. -/
theorem State.holdsPage_of_has
    {setup : Setup}
    {answers : Query -> Batch}
    {state : State ε}
    {page : Nat}
    (whole : HoldsWholeBatches setup answers state.search state.cache)
    (held : state.cache.has (setup.paging.pageStart page) = true) :
    state.HoldsPage setup answers page := by
  intro search active rank sameBatch
  rw [Cache.has_eq_isSome] at held
  obtain ⟨hit, found⟩ := Option.isSome_iff_exists.1 held
  obtain ⟨other, alsoActive, kept⟩ := whole _ hit found
  cases active.symm.trans alsoActive
  exact kept rank sameBatch

/-- A page that is not in the cache is not shown before something is asked. -/
theorem State.afterBegin_ne_showing
    {setup : Setup}
    {state : State ε}
    {page : Nat}
    {search : Search}
    (missing : ¬state.cache.has (setup.paging.pageStart page) = true)
    (active : state.search = some search)
    (call : PageCall) :
    (state.pageCall setup page).afterBegin setup ≠ .showing call := by
  have target_eq : (state.pageCall setup page).target = some search := by
    simp only [pageCall, if_neg missing, active]
  cases compiles : batchQuery setup search ((state.pageCall setup page).batchStart setup) <;>
    simp [PageCall.afterBegin, PageCall.query?, target_eq, compiles, Except.map]

/-- The page requests that are given out by an event while no search runs. -/
def World.begunQuietly (setup : Setup) (world : World ε) : Event ε -> List Nat
  | .start call =>
      if world.state.isSearching then []
      else
        match world.state.start? setup call with
        | none => []
        | some (_, calls) => calls.filterMap Pending.pageRequest?
  | .resume _ _ => []

section Invariant

variable (setup : Setup) (answers : Query -> Batch)

/-- The page changes with the given page requests are quiet: no search of their generation has
been running since they began. The cache holds whole batches while no search runs, and it holds
the page of a quiet page change that is about to show it. -/
structure World.QuietInOrder (quiet : List Nat) (world : World ε) : Prop where
  issued : ∀ request ∈ quiet, request ≤ world.state.pageRequest
  whole :
    world.state.isSearching = false ->
      HoldsWholeBatches setup answers world.state.search world.state.cache
  undisturbed :
    ∀ part ∈ world.pending, ∀ call, part.pageCall? = some call ->
      call.request ∈ quiet ->
      call.generation = world.state.generation ->
      world.state.isSearching = false ∧
        (part = .showing call -> world.state.HoldsPage setup answers call.page)

end Invariant

namespace World.QuietInOrder

variable
  {setup : Setup}
  {answers : Query -> Batch}
  {quiet : List Nat}
  {world : World ε}

theorem initial (least greatest : Int) :
    QuietInOrder setup answers [] (World.initial least greatest : World ε) where
  issued request member := by cases member
  whole _ := .empty _
  undisturbed part member := by cases member

/-- A call that opens a generation leaves no page change in it. -/
theorem opens
    (inOrder : world.QuietInOrder setup answers quiet)
    (ordered : world.GenerationsInOrder)
    {state : State ε}
    {calls : List Pending}
    (opened : state.generation = world.state.generation + 1)
    (counted : world.state.pageRequest ≤ state.pageRequest)
    (nothing : state.isSearching = true ∨ state.cache = .empty)
    (noPage : ∀ part ∈ calls, part.pageCall? = none) :
    (world.begun state calls).QuietInOrder setup answers quiet where
  issued request member := Nat.le_trans (inOrder.issued request member) counted
  whole rests := by
    rcases nothing with searching | cache_eq
    · rw [World.begun_state, searching] at rests
      cases rests
    · rw [World.begun_state, cache_eq]
      exact .empty _
  undisturbed part member call isPage isQuiet current := by
    rcases List.mem_append.1 member with older | begun
    · have issued := ordered.pending_le part older
      rw [Pending.generation_eq isPage, current, World.begun_state] at issued
      omega
    · rw [noPage part begun] at isPage
      cases isPage

/-- A page change that begins while no search runs is quiet, and the quiet page changes before it
stay quiet. -/
theorem changesPage
    (inOrder : world.QuietInOrder setup answers quiet)
    (requests : world.RequestsInOrder)
    (page : Nat) :
    (world.begun world.state.changingPage
        [(world.state.pageCall setup page).afterBegin setup]).QuietInOrder setup answers
      (quiet ++ if world.state.isSearching then [] else [world.state.pageRequest + 1]) where
  issued request member := by
    rw [World.begun_state]
    change request ≤ world.state.pageRequest + 1
    rcases List.mem_append.1 member with older | fresh
    · have := inOrder.issued request older
      omega
    · split at fresh
      · cases fresh
      · exact Nat.le_of_eq (List.mem_singleton.1 fresh)
  whole rests := inOrder.whole rests
  undisturbed part member call isPage isQuiet current := by
    rcases List.mem_append.1 member with older | begun
    · have issued := (requests part older call isPage).1
      have older_quiet : call.request ∈ quiet := by
        rcases List.mem_append.1 isQuiet with quietBefore | fresh
        · exact quietBefore
        · split at fresh
          · cases fresh
          · have := List.mem_singleton.1 fresh
            omega
      exact inOrder.undisturbed part older call isPage older_quiet current
    · cases List.mem_singleton.1 begun
      rw [(Pending.afterBegin_pageCall? setup _).1] at isPage
      cases isPage
      have rests : world.state.isSearching = false := by
        refine Bool.eq_false_iff.2 fun searching => ?_
        rw [searching, if_pos rfl, List.append_nil] at isQuiet
        have := inOrder.issued _ isQuiet
        simp only [State.pageCall] at this
        omega
      refine ⟨rests, fun shows => ?_⟩
      by_cases held : world.state.cache.has (setup.paging.pageStart page) = true
      · exact State.holdsPage_of_has (inOrder.whole rests) held
      · intro search active
        exact absurd shows (State.afterBegin_ne_showing held active _)

end World.QuietInOrder

variable [Worded ε]

/-- The page requests of the page changes that a schedule begins while no search runs. -/
def World.quietRequests (setup : Setup) (world : World ε) : List (Event ε) -> List Nat
  | [] => []
  | event :: events =>
      match world.next? setup event with
      | none => []
      | some next => world.begunQuietly setup event ++ next.quietRequests setup events

namespace Pending

variable {setup : Setup} {state : State ε} {outcome : Except ε Batch} {part : Pending}

/-- A page is shown after a section only where the section has stored its batch. -/
theorem exists_of_showing_mem_resume_pending
    {call : PageCall}
    (remains : .showing call ∈ (part.resume setup state outcome).pending) :
    ∃ query batch, part = .fetching call query ∧ call.generation = state.generation ∧
      outcome = .ok batch := by
  cases part with
  | searching other => cases remains
  | fetching other query =>
      have same := List.mem_singleton.1 remains
      by_cases newest : other.generation = state.generation
      · cases outcome with
        | error failure =>
            rw [State.receivePage_error newest] at same
            cases same
        | ok batch =>
            rw [State.receivePage_ok newest] at same
            cases same
            exact ⟨query, batch, rfl, newest, rfl⟩
      · cases outcome <;> simp [State.receivePage, newest, PageCall.afterArrival] at same
  | showing other =>
      cases List.mem_singleton.1 remains
  | settling other failed => cases remains

/-- No section of a call under way makes a session search. -/
theorem resume_isSearching
    (rests : state.isSearching = false) :
    (part.resume setup state outcome).state.isSearching = false := by
  have effect := resume_effect setup state outcome part
  generalize (part.resume setup state outcome).state = next at effect ⊢
  cases effect with
  | searchFailed newest fails => rfl
  | searchAnswered newest succeeds => rfl
  | _ => exact rests

end Pending

namespace World

variable {setup : Setup}

/-- Answers stay given after an event. -/
theorem answers_subset_of_next?
    {world next : World ε}
    {event : Event ε}
    (happens : world.next? setup event = some next) :
    world.answers ⊆ next.answers := by
  cases event with
  | start call =>
      obtain ⟨_, _, rfl⟩ := Option.map_eq_some_iff.1 happens
      exact List.Subset.refl _
  | resume place outcome =>
      obtain ⟨_, _, rfl⟩ := Option.map_eq_some_iff.1 happens
      exact List.subset_append_left _ _

/-- Answers stay given after a schedule. -/
theorem answers_subset_of_run?
    {world final : World ε}
    {events : List (Event ε)}
    (runs : world.run? setup events = some final) :
    world.answers ⊆ final.answers := by
  induction events generalizing world with
  | nil =>
      cases runs
      exact List.Subset.refl _
  | cons event events inductionHypothesis =>
      obtain ⟨next, happens, rest⟩ := Option.bind_eq_some_iff.1 runs
      exact List.Subset.trans (answers_subset_of_next? happens) (inductionHypothesis rest)

end World

namespace World.QuietInOrder

variable
  {setup : Setup}
  {answers : Query -> Batch}
  {quiet : List Nat}
  {world : World ε}

/-- A call that begins leaves the quiet page changes quiet, and a page change that begins while no
search runs is one of them. -/
theorem start
    (inOrder : world.QuietInOrder setup answers quiet)
    (reachable : Reachable setup world)
    {call : Call}
    {state : State ε}
    {calls : List Pending}
    (starts : world.state.start? setup call = some (state, calls)) :
    (world.begun state calls).QuietInOrder setup answers
      (quiet ++ world.begunQuietly setup (.start call)) := by
  simp only [World.begunQuietly, starts]
  rcases State.start?_cases starts with
    ⟨active, page, query, _, rfl, rfl⟩ | ⟨page, rfl, rfl⟩ | ⟨rfl, rfl⟩ |
      ⟨⟨texts, textFilter, genres, collections, dates, rfl⟩, rfl⟩
  · have noPage : [Pending.searching (world.state.searchCall setup active page query)].filterMap
        Pending.pageRequest? = [] := rfl
    rw [noPage, ite_self, List.append_nil]
    exact inOrder.opens reachable.generationsInOrder rfl (Nat.le_succ _) (.inl rfl)
      (List.forall_mem_singleton.2 rfl)
  · rw [((world.state.pageCall setup page).afterBegin_numbers setup).2]
    exact inOrder.changesPage reachable.requestsInOrder page
  · rw [List.filterMap_nil, ite_self, List.append_nil]
    exact inOrder.opens reachable.generationsInOrder rfl (Nat.le_succ _) (.inr rfl)
      fun part member => absurd member List.not_mem_nil
  · rw [List.filterMap_nil, ite_self, List.append_nil, World.begun, List.append_nil]
    exact ⟨inOrder.issued, inOrder.whole, inOrder.undisturbed⟩

/-- While no search runs, no search of the current generation is under way. -/
theorem searching_superseded
    (reachable : Reachable setup world)
    (rests : world.state.isSearching = false)
    {call : SearchCall}
    (underWay : .searching call ∈ world.pending) :
    call.generation ≠ world.state.generation := by
  intro newest
  have searching :=
    reachable.searching_iff.2 ((World.mem_searchGenerations_iff ..).2 ⟨call, underWay, newest⟩)
  rw [rests] at searching
  cases searching

/-- A page change that stores its batch leaves the batch as the answer has it, and all others as
they were. -/
theorem get?_batchStored_eq
    (inOrder : world.QuietInOrder setup answers quiet)
    (reachable : Reachable setup world)
    (rests : world.state.isSearching = false)
    {call : PageCall}
    {query : Query}
    (underWay : .fetching call query ∈ world.pending)
    (newest : call.generation = world.state.generation) :
    ∃ search, world.state.search = some search ∧ ∀ rank,
      (world.state.batchStored setup call (answers query)).cache.get? rank =
        if setup.paging.batchStart rank = call.batchStart setup then
          uncachedHit? setup answers search rank
        else world.state.cache.get? rank := by
  obtain ⟨aligned, asked⟩ := reachable.asksActive _ underWay _ _ rfl
  obtain ⟨search, active, compiles⟩ := asked newest
  have whole := inOrder.whole rests
  rw [active] at whole
  refine ⟨search, active, fun rank => ?_⟩
  split
  · rename_i sameBatch
    exact whole.get?_writeBatch_of_sameBatch compiles sameBatch
  · rename_i otherBatch
    exact HoldsWholeBatches.get?_writeBatch_of_otherBatch aligned otherBatch _

/-- A page that is held stays held in every section while no search runs. -/
theorem holdsPage_resume
    (inOrder : world.QuietInOrder setup answers quiet)
    (reachable : Reachable setup world)
    (rests : world.state.isSearching = false)
    {part : Pending}
    (underWay : part ∈ world.pending)
    {outcome : Except ε Batch}
    (honest : ∀ answer ∈ (part.resume setup world.state outcome).answers,
      answer.batch = answers answer.query)
    {page : Nat}
    (holds : world.state.HoldsPage setup answers page) :
    (part.resume setup world.state outcome).state.HoldsPage setup answers page := by
  have effect := Pending.resume_effect setup world.state outcome part
  generalize (part.resume setup world.state outcome).state = next at effect ⊢
  cases effect with
  | searchFailed newest fails => exact absurd newest (searching_superseded reachable rests underWay)
  | searchAnswered newest succeeds =>
      exact absurd newest (searching_superseded reachable rests underWay)
  | @fetched call query batch newest succeeds =>
      subst succeeds
      obtain rfl : batch = answers query := honest _ (.head _)
      obtain ⟨search, active, get?_eq⟩ :=
        inOrder.get?_batchStored_eq reachable rests underWay newest
      intro other alsoActive rank sameBatch
      cases active.symm.trans alsoActive
      rw [get?_eq]
      split
      · rfl
      · exact holds search active rank sameBatch
  | _ => exact holds

/-- Every section with an answer by the query alone leaves whole batches in the cache. -/
theorem whole_resume
    (inOrder : world.QuietInOrder setup answers quiet)
    (reachable : Reachable setup world)
    {part : Pending}
    (underWay : part ∈ world.pending)
    {outcome : Except ε Batch}
    (honest : ∀ answer ∈ (part.resume setup world.state outcome).answers,
      answer.batch = answers answer.query)
    (rests : (part.resume setup world.state outcome).state.isSearching = false) :
    HoldsWholeBatches setup answers (part.resume setup world.state outcome).state.search
      (part.resume setup world.state outcome).state.cache := by
  have asking := reachable.asksActive part underWay
  have effect := Pending.resume_effect setup world.state outcome part
  generalize (part.resume setup world.state outcome).state = next at effect rests ⊢
  cases effect with
  | searchFailed newest fails => exact .empty _
  | @searchAnswered call batch newest succeeds =>
      subst succeeds
      obtain rfl : batch = answers call.query := honest _ (.head _)
      obtain ⟨aligned, asked⟩ := asking _ _ rfl
      obtain ⟨search, active, compiles⟩ := asked newest
      simp only [State.searchAnswered, active]
      exact (HoldsWholeBatches.empty _).write aligned compiles
  | @fetched call query batch newest succeeds =>
      subst succeeds
      obtain rfl : batch = answers query := honest _ (.head _)
      obtain ⟨aligned, asked⟩ := asking _ _ rfl
      obtain ⟨search, active, compiles⟩ := asked newest
      have whole := inOrder.whole rests
      rw [active] at whole
      simp only [State.batchStored, active]
      exact whole.write aligned compiles
  | _ => exact inOrder.whole rests

/-- Every section with an answer by the query alone leaves the quiet page changes quiet. -/
theorem resume
    (inOrder : world.QuietInOrder setup answers quiet)
    (reachable : Reachable setup world)
    {earlier later : List Pending}
    {part : Pending}
    (underWay : world.pending = earlier ++ part :: later)
    {outcome : Except ε Batch}
    (honest : ∀ answer ∈ (part.resume setup world.state outcome).answers,
      answer.batch = answers answer.query) :
    (world.resumed earlier later (part.resume setup world.state outcome)).QuietInOrder
      setup answers quiet := by
  obtain ⟨generation_eq, request_eq, _⟩ := Pending.resume_frame setup world.state outcome part
  have member : part ∈ world.pending := by simp [underWay]
  refine ⟨?_, inOrder.whole_resume reachable member honest, ?_⟩
  · rw [World.resumed_state, request_eq]
    exact inOrder.issued
  · intro rest remains call isPage isQuiet current
    rw [World.resumed_state, generation_eq] at current
    rw [World.resumed_state]
    rcases World.of_mem_resumed_pending underWay remains with before | here
    · obtain ⟨rests, holds⟩ := inOrder.undisturbed rest before call isPage isQuiet current
      exact ⟨Pending.resume_isSearching rests, fun shows =>
        inOrder.holdsPage_resume reachable rests member honest (holds shows)⟩
    · have partIsPage := (Pending.of_mem_resume_pending here).2.1.symm.trans isPage
      have rests := (inOrder.undisturbed part member call partIsPage isQuiet current).1
      refine ⟨Pending.resume_isSearching rests, ?_⟩
      rintro rfl
      obtain ⟨query, batch, rfl, newest, rfl⟩ := Pending.exists_of_showing_mem_resume_pending here
      obtain rfl : batch = answers query := honest _ (.head _)
      obtain ⟨search, active, get?_eq⟩ :=
        inOrder.get?_batchStored_eq reachable rests member newest
      simp only [Pending.resume, State.receivePage_ok newest]
      intro other alsoActive rank sameBatch
      cases active.symm.trans alsoActive
      rw [get?_eq, PageCall.batchStart, if_pos sameBatch]

/-- An event leaves the quiet page changes quiet, and may begin another one. -/
theorem next
    (inOrder : world.QuietInOrder setup answers quiet)
    (reachable : Reachable setup world)
    {event : Event ε}
    {next : World ε}
    (happens : world.next? setup event = some next)
    (honest : ∀ answer ∈ next.answers, answer.batch = answers answer.query) :
    next.QuietInOrder setup answers (quiet ++ world.begunQuietly setup event) := by
  cases event with
  | start call =>
      obtain ⟨⟨state, calls⟩, starts, rfl⟩ := Option.map_eq_some_iff.1 happens
      exact inOrder.start reachable starts
  | resume place outcome =>
      obtain ⟨part, found, rfl⟩ := Option.map_eq_some_iff.1 happens
      rw [World.begunQuietly, List.append_nil]
      exact inOrder.resume reachable (World.pending_eq_of_getElem? found)
        fun answer taken => honest answer (List.mem_append_right _ taken)

/-- A schedule with answers by the query alone leaves the page changes quiet that have begun
quietly. -/
theorem run
    (inOrder : world.QuietInOrder setup answers quiet)
    (reachable : Reachable setup world)
    {events : List (Event ε)}
    {final : World ε}
    (runs : world.run? setup events = some final)
    (honest : ∀ answer ∈ final.answers, answer.batch = answers answer.query) :
    final.QuietInOrder setup answers (quiet ++ world.quietRequests setup events) := by
  induction events generalizing world quiet with
  | nil =>
      cases runs
      rwa [World.quietRequests, List.append_nil]
  | cons event events inductionHypothesis =>
      obtain ⟨next, happens, rest⟩ := Option.bind_eq_some_iff.1 runs
      have honestNext : ∀ answer ∈ next.answers, answer.batch = answers answer.query :=
        fun answer given => honest answer (World.answers_subset_of_run? rest given)
      simp only [World.quietRequests, happens, ← List.append_assoc]
      exact inductionHypothesis (inOrder.next reachable happens honestNext)
        (reachable.next? happens) rest

end World.QuietInOrder

end Session
end Concordance
