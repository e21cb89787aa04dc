import Concordance.Proofs.Session.Generations
import Concordance.Proofs.Session.Superseded
import Mathlib.Data.List.Nodup

/-!
# Status and flags

A session tells what it is doing by a status and two flags. This module says what they
mean in terms of the calls under way: a session is searching while the search of the
current generation is under way, and changing the page while the holder of the newest page
request is a page change under way. So the flags are clear and the status is a final one
when no call is under way.

Each number of a counter is given out to one call only. That is why the end of the newest
call can clear its flag: no other call under way holds the same number.
-/

namespace Concordance
namespace Session

/-- The generation that a search under way has opened; a page change has opened none. -/
def Pending.searchGeneration? : Pending -> Option Nat
  | .searching call => some call.generation
  | .fetching _ _ => none
  | .showing _ => none
  | .settling _ _ => none

/-- The page request of a page change under way. -/
def Pending.pageRequest? (part : Pending) : Option Nat :=
  part.pageCall?.map PageCall.request

variable {ε : Type}

namespace World

/-- The generations of the searches under way. -/
def searchGenerations (world : World ε) : List Nat :=
  world.pending.filterMap Pending.searchGeneration?

/-- The page requests of the page changes under way. -/
def pageRequests (world : World ε) : List Nat :=
  world.pending.filterMap Pending.pageRequest?

@[simp] theorem begun_searchGenerations
    (world : World ε)
    (state : State ε)
    (calls : List Pending) :
    (world.begun state calls).searchGenerations =
      world.searchGenerations ++ calls.filterMap Pending.searchGeneration? :=
  List.filterMap_append

@[simp] theorem begun_pageRequests
    (world : World ε)
    (state : State ε)
    (calls : List Pending) :
    (world.begun state calls).pageRequests =
      world.pageRequests ++ calls.filterMap Pending.pageRequest? :=
  List.filterMap_append

/-- A search of a generation is under way when the generation is listed. -/
theorem mem_searchGenerations_iff (world : World ε) (generation : Nat) :
    generation ∈ world.searchGenerations ↔
      ∃ call, .searching call ∈ world.pending ∧ call.generation = generation := by
  rw [searchGenerations, List.mem_filterMap]
  constructor
  · rintro ⟨part, underWay, held⟩
    cases part with
    | searching call => exact ⟨call, underWay, Option.some.inj held⟩
    | fetching call query => cases held
    | showing call => cases held
    | settling call failed => cases held
  · rintro ⟨call, underWay, rfl⟩
    exact ⟨_, underWay, rfl⟩

theorem mem_pageRequests_iff (world : World ε) (request : Nat) :
    request ∈ world.pageRequests ↔
      ∃ part ∈ world.pending, ∃ call, part.pageCall? = some call ∧ call.request = request := by
  simp only [pageRequests, List.mem_filterMap, Pending.pageRequest?, Option.map_eq_some_iff]

/-- The generations of the searches under way have been opened. -/
theorem GenerationsInOrder.searchGenerations_le
    {world : World ε}
    (ordered : world.GenerationsInOrder)
    {generation : Nat}
    (held : generation ∈ world.searchGenerations) :
    generation ≤ world.state.generation := by
  obtain ⟨call, underWay, rfl⟩ := (mem_searchGenerations_iff ..).1 held
  exact ordered.pending_le _ underWay

/-- The page requests of the page changes under way have been given out. -/
theorem RequestsInOrder.pageRequests_le
    {world : World ε}
    (ordered : world.RequestsInOrder)
    {request : Nat}
    (held : request ∈ world.pageRequests) :
    request ≤ world.state.pageRequest := by
  obtain ⟨part, underWay, call, isPage, rfl⟩ := (mem_pageRequests_iff ..).1 held
  exact (ordered part underWay call isPage).1

section Numbers

variable
  {world after : World ε}
  {earlier later : List Pending}
  {part : Pending}
  {number? : Pending -> Option Nat}

/-- The numbers of the calls under way stay the same when one of these goes on. -/
theorem filterMap_resumed_of_goesOn
    (underWay : world.pending = earlier ++ part :: later)
    (goesOn : after.pending.filterMap number? = [part].filterMap number?) :
    (world.resumed earlier later after).pending.filterMap number? =
      world.pending.filterMap number? := by
  rw [resumed_pending, underWay, List.append_cons]
  simp only [List.filterMap_append, goesOn]

/-- The number of a call is no longer held when the call ends. -/
theorem mem_filterMap_resumed_iff_of_ends
    (underWay : world.pending = earlier ++ part :: later)
    (distinct : (world.pending.filterMap number?).Nodup)
    {number : Nat}
    (holds : number? part = some number)
    (ends : after.pending.filterMap number? = [])
    (other : Nat) :
    other ∈ (world.resumed earlier later after).pending.filterMap number? ↔
      other ∈ world.pending.filterMap number? ∧ other ≠ number := by
  rw [underWay, List.filterMap_append, List.filterMap_cons_some holds,
    List.nodup_middle, List.nodup_cons] at distinct
  simp only [resumed_pending, underWay, List.filterMap_append, List.filterMap_cons_some holds,
    ends, List.append_nil, List.mem_append, List.mem_cons]
  have gone := distinct.1
  rw [List.mem_append] at gone
  constructor
  · intro held
    have different : other ≠ number := fun same => gone (same ▸ held)
    exact ⟨held.imp id .inr, different⟩
  · rintro ⟨before | same | behind, different⟩
    · exact .inl before
    · exact absurd same different
    · exact .inr behind

/-- The numbers of the calls under way stay distinct when one of these goes on or ends. -/
theorem nodup_filterMap_resumed
    (underWay : world.pending = earlier ++ part :: later)
    (distinct : (world.pending.filterMap number?).Nodup)
    (kept : (after.pending.filterMap number?).Sublist ([part].filterMap number?)) :
    ((world.resumed earlier later after).pending.filterMap number?).Nodup := by
  refine distinct.sublist ?_
  rw [resumed_pending, underWay, List.append_cons]
  simp only [List.filterMap_append]
  exact (kept.append_left _).append_right _

/-- The numbers of the calls under way stay distinct when a call begins with a new one. -/
theorem nodup_filterMap_begun
    {state : State ε}
    {calls : List Pending}
    {count : Nat}
    (distinct : (world.pending.filterMap number?).Nodup)
    (issued : ∀ number ∈ world.pending.filterMap number?, number ≤ count)
    (fresh : calls.filterMap number? = [] ∨ calls.filterMap number? = [count + 1]) :
    ((world.begun state calls).pending.filterMap number?).Nodup := by
  rw [begun_pending, List.filterMap_append]
  rcases fresh with none_eq | one_eq
  · rwa [none_eq, List.append_nil]
  · rw [one_eq]
    refine List.nodup_append.2 ⟨distinct, List.nodup_singleton _, ?_⟩
    intro number held other same equal
    have := issued number held
    have := List.mem_singleton.1 same
    omega

end Numbers
end World

namespace Pending

variable [Worded ε]

/-- What remains of a call holds no generation of a search. -/
theorem resume_searchGenerations
    (setup : Setup)
    (state : State ε)
    (outcome : Except ε Batch)
    (part : Pending) :
    (part.resume setup state outcome).pending.filterMap searchGeneration? = [] := by
  cases part with
  | searching call => rfl
  | fetching call query =>
      simp only [resume]
      cases (state.receivePage setup call outcome).1.2 <;> rfl
  | showing call => rfl
  | settling call failed => rfl

/-- A page change keeps its page request until it has settled. -/
theorem resume_pageRequests
    (setup : Setup)
    (state : State ε)
    (outcome : Except ε Batch)
    {part : Pending}
    (goesOn : ∀ call failed, part ≠ .settling call failed) :
    (part.resume setup state outcome).pending.filterMap pageRequest? =
      [part].filterMap pageRequest? := by
  cases part with
  | searching call => rfl
  | fetching call query =>
      simp only [resume]
      cases (state.receivePage setup call outcome).1.2 <;> rfl
  | showing call => rfl
  | settling call failed => exact absurd rfl (goesOn call failed)

end Pending

theorem PageCall.afterBegin_numbers (setup : Setup) (call : PageCall) :
    [call.afterBegin setup].filterMap Pending.searchGeneration? = [] ∧
      [call.afterBegin setup].filterMap Pending.pageRequest? = [call.request] := by
  unfold PageCall.afterBegin
  split <;> exact ⟨rfl, rfl⟩

/-- A call that begins holds no numbers but new ones. -/
theorem State.start?_numbers
    {setup : Setup}
    {state next : State ε}
    {call : Call}
    {calls : List Pending}
    (starts : state.start? setup call = some (next, calls)) :
    (calls.filterMap Pending.searchGeneration? = [] ∨
        calls.filterMap Pending.searchGeneration? = [state.generation + 1]) ∧
      (calls.filterMap Pending.pageRequest? = [] ∨
        calls.filterMap Pending.pageRequest? = [state.pageRequest + 1]) := by
  rcases start?_cases starts with
    ⟨active, page, query, _, rfl, rfl⟩ | ⟨page, rfl, rfl⟩ | ⟨rfl, rfl⟩ | ⟨_, rfl⟩
  · exact ⟨.inr rfl, .inl rfl⟩
  · obtain ⟨noSearch, request⟩ := (state.pageCall setup page).afterBegin_numbers setup
    exact ⟨.inl noSearch, .inr request⟩
  · exact ⟨.inl rfl, .inl rfl⟩
  · exact ⟨.inl rfl, .inl rfl⟩

/-- No two searches under way have opened the same generation, and no two page changes
under way hold the same page request. -/
structure World.NumbersDistinct (world : World ε) : Prop where
  searches : world.searchGenerations.Nodup
  pages : world.pageRequests.Nodup

namespace State

/-- A session whose status and flags go together. -/
structure Consistent (state : State ε) : Prop where
  searching_iff : state.isSearching = true ↔ state.status = .searching
  changing : state.status = .changingPage -> state.isChangingPage = true
  searched_iff_search : state.hasSearched = true ↔ state.search ≠ none
  searched_iff_status : state.hasSearched = true ↔ state.status ≠ .idle

namespace Consistent

variable {state : State ε}

/-- A session that is searching has searched. -/
theorem hasSearched_of_isSearching
    (consistent : state.Consistent)
    (searching : state.isSearching = true) :
    state.hasSearched = true := by
  rw [consistent.searched_iff_status, consistent.searching_iff.1 searching]
  exact Status.noConfusion

theorem initial (least greatest : Int) : (State.initial least greatest : State ε).Consistent := by
  constructor <;> simp [State.initial]

theorem reset (state : State ε) : state.reset.Consistent := by
  constructor <;> simp [State.reset]

theorem searchingFor (state : State ε) (active : Search) :
    (state.searchingFor active).Consistent := by
  constructor <;> simp [State.searchingFor]

/-- A page change that begins shows in the status of a session that shows something. -/
theorem changingPage (consistent : state.Consistent) : state.changingPage.Consistent := by
  obtain ⟨searching, _, searched, active⟩ := consistent
  constructor
  · simp only [State.changingPage]
    split
    · rename_i shown
      rw [searching]
      rcases shown with ready | failed
      · simp [ready]
      · simp [failed]
    · exact searching
  · intro _
    rfl
  · exact searched
  · simp only [State.changingPage]
    split
    · rename_i shown
      rw [active]
      rcases shown with ready | failed
      · simp [ready]
      · simp [failed]
    · exact active

/-- A search that failed is over. -/
theorem searchFailed
    (consistent : state.Consistent)
    (searched : state.hasSearched = true)
    (failure : ε) :
    (state.searchFailed failure).Consistent where
  searching_iff := by simp [State.searchFailed]
  changing := by simp [State.searchFailed]
  searched_iff_search := consistent.searched_iff_search
  searched_iff_status := iff_of_true searched Status.noConfusion

/-- A search that is answered is over. -/
theorem searchAnswered
    (consistent : state.Consistent)
    (searched : state.hasSearched = true)
    (setup : Setup)
    (call : SearchCall)
    (batch : Batch) :
    (state.searchAnswered setup call batch).Consistent where
  searching_iff := by simp [State.searchAnswered]
  changing := by simp [State.searchAnswered]
  searched_iff_search := consistent.searched_iff_search
  searched_iff_status := iff_of_true searched Status.noConfusion

/-- A page change that settles ends its own status and no other. -/
theorem settled (consistent : state.Consistent) (failed : Bool) :
    (state.settled failed).Consistent := by
  obtain ⟨searching, _, searched, active⟩ := consistent
  by_cases changing : state.status = .changingPage
  · constructor
    · cases failed <;> simp [State.settled, changing, searching]
    · cases failed <;> simp [State.settled, changing]
    · exact searched
    · cases failed <;> simp [State.settled, changing, active]
  · constructor
    · simpa [State.settled, changing] using searching
    · simp [State.settled, changing]
    · exact searched
    · simpa [State.settled, changing] using active

end Consistent
end State

variable [Worded ε]

/-- In every world that can be reached the numbers of the calls under way are distinct. -/
theorem Reachable.numbersDistinct
    {setup : Setup}
    {world : World ε}
    (reachable : Reachable setup world) :
    world.NumbersDistinct := by
  induction reachable with
  | initial least greatest => exact ⟨List.nodup_nil, List.nodup_nil⟩
  | start reachable starts distinct =>
      obtain ⟨search, page⟩ := State.start?_numbers starts
      exact
        ⟨World.nodup_filterMap_begun distinct.searches
            (fun _ held => reachable.generationsInOrder.searchGenerations_le held) search,
          World.nodup_filterMap_begun distinct.pages
            (fun _ held => reachable.requestsInOrder.pageRequests_le held) page⟩
  | @resume world earlier later part outcome reachable underWay distinct =>
      refine
        ⟨World.nodup_filterMap_resumed underWay distinct.searches ?_,
          World.nodup_filterMap_resumed underWay distinct.pages ?_⟩
      · rw [Pending.resume_searchGenerations]
        exact List.nil_sublist _
      · cases part with
        | settling call failed => exact List.nil_sublist _
        | searching call => exact List.Sublist.refl _
        | fetching call query =>
            rw [Pending.resume_pageRequests setup world.state outcome (by simp)]
        | showing call => exact List.Sublist.refl _

namespace World.NumbersDistinct

variable
  {setup : Setup}
  {world : World ε}
  {earlier later : List Pending}
  {part : Pending}

/-- The generation of a search is no longer held when the search has taken its answer. -/
theorem search_ends
    (distinct : world.NumbersDistinct)
    {call : SearchCall}
    (underWay : world.pending = earlier ++ .searching call :: later)
    (outcome : Except ε Batch)
    (generation : Nat) :
    generation ∈
        (world.resumed earlier later
          ((Pending.searching call).resume setup world.state outcome)).searchGenerations ↔
      generation ∈ world.searchGenerations ∧ generation ≠ call.generation :=
  mem_filterMap_resumed_iff_of_ends underWay distinct.searches rfl rfl generation

/-- The page request of a page change is no longer held when the page change has settled. -/
theorem page_ends
    (distinct : world.NumbersDistinct)
    {call : PageCall}
    {failed : Bool}
    (underWay : world.pending = earlier ++ .settling call failed :: later)
    (outcome : Except ε Batch)
    (request : Nat) :
    request ∈
        (world.resumed earlier later
          ((Pending.settling call failed).resume setup world.state outcome)).pageRequests ↔
      request ∈ world.pageRequests ∧ request ≠ call.request :=
  mem_filterMap_resumed_iff_of_ends underWay distinct.pages rfl rfl request

/-- A generation is held as before when no search of it takes its answer. -/
theorem search_stays
    (distinct : world.NumbersDistinct)
    (underWay : world.pending = earlier ++ part :: later)
    {generation : Nat}
    (other : part.searchGeneration? ≠ some generation)
    (outcome : Except ε Batch) :
    generation ∈
        (world.resumed earlier later
          (part.resume setup world.state outcome)).searchGenerations ↔
      generation ∈ world.searchGenerations := by
  cases part with
  | searching call =>
      rw [distinct.search_ends underWay]
      exact and_iff_left fun same => other (congrArg some same.symm)
  | fetching call query =>
      rw [searchGenerations,
        filterMap_resumed_of_goesOn underWay (Pending.resume_searchGenerations ..)]
      rfl
  | showing call =>
      rw [searchGenerations, filterMap_resumed_of_goesOn underWay rfl]
      rfl
  | settling call failed =>
      rw [searchGenerations, filterMap_resumed_of_goesOn underWay rfl]
      rfl

/-- A page request is held as before when no page change with it settles. -/
theorem page_stays
    (distinct : world.NumbersDistinct)
    (underWay : world.pending = earlier ++ part :: later)
    {request : Nat}
    (other : ∀ call failed, part = .settling call failed -> call.request ≠ request)
    (outcome : Except ε Batch) :
    request ∈
        (world.resumed earlier later (part.resume setup world.state outcome)).pageRequests ↔
      request ∈ world.pageRequests := by
  by_cases settles : ∃ call failed, part = .settling call failed
  · obtain ⟨call, failed, rfl⟩ := settles
    rw [distinct.page_ends underWay]
    exact and_iff_left (other call failed rfl).symm
  · have goesOn : ∀ call failed, part ≠ .settling call failed :=
      fun call failed same => settles ⟨call, failed, same⟩
    rw [pageRequests, filterMap_resumed_of_goesOn underWay
      (Pending.resume_pageRequests setup world.state outcome goesOn)]
    rfl

end World.NumbersDistinct

/-- In every world that can be reached a session is searching exactly while the search of
the current generation is under way. -/
theorem Reachable.searching_iff
    {setup : Setup}
    {world : World ε}
    (reachable : Reachable setup world) :
    world.state.isSearching = true ↔ world.state.generation ∈ world.searchGenerations := by
  induction reachable with
  | initial least greatest => simp [World.initial, State.initial, World.searchGenerations]
  | @start world call state calls reachable starts searching =>
      have opened : world.state.generation + 1 ∉ world.searchGenerations := fun held => by
        have := reachable.generationsInOrder.searchGenerations_le held
        omega
      rw [World.begun_state, World.begun_searchGenerations, List.mem_append]
      rcases State.start?_cases starts with
        ⟨active, page, query, _, rfl, rfl⟩ | ⟨page, rfl, rfl⟩ | ⟨rfl, rfl⟩ |
          ⟨⟨texts, textFilter, genres, collections, dates, rfl⟩, rfl⟩
      · exact iff_of_true rfl (.inr (List.mem_singleton_self _))
      · rw [(PageCall.afterBegin_numbers setup _).1]
        simpa [State.changingPage] using searching
      · simpa [State.reset] using opened
      · simpa using searching
  | @resume world earlier later part outcome reachable underWay searching =>
      have distinct := reachable.numbersDistinct
      have effect := Pending.resume_effect setup world.state outcome part
      rw [World.resumed_state]
      generalize (part.resume setup world.state outcome).state = next at effect ⊢
      cases effect with
      | searchFailed newest fails =>
          rw [distinct.search_ends underWay]
          simp [State.searchFailed, newest]
      | searchAnswered newest succeeds =>
          rw [distinct.search_ends underWay]
          simp [State.searchAnswered, newest]
      | late asked superseded =>
          rw [distinct.search_stays underWay]
          · exact searching
          · intro held
            cases part with
            | searching call => exact superseded (Option.some.inj held)
            | _ => cases held
      | _ =>
          rw [distinct.search_stays underWay (by simp [Pending.searchGeneration?])]
          exact searching

/-- In every world that can be reached a session is changing the page exactly while the
holder of the newest page request is a page change under way. -/
theorem Reachable.changing_iff
    {setup : Setup}
    {world : World ε}
    (reachable : Reachable setup world) :
    world.state.isChangingPage = true ↔ world.state.pageRequest ∈ world.pageRequests := by
  induction reachable with
  | initial least greatest => simp [World.initial, State.initial, World.pageRequests]
  | @start world call state calls reachable starts changing =>
      have issued : world.state.pageRequest + 1 ∉ world.pageRequests := fun held => by
        have := reachable.requestsInOrder.pageRequests_le held
        omega
      rw [World.begun_state, World.begun_pageRequests, List.mem_append]
      rcases State.start?_cases starts with
        ⟨active, page, query, _, rfl, rfl⟩ | ⟨page, rfl, rfl⟩ | ⟨rfl, rfl⟩ |
          ⟨⟨texts, textFilter, genres, collections, dates, rfl⟩, rfl⟩
      · simpa [State.searchingFor, Pending.pageRequest?, Pending.pageCall?] using issued
      · rw [(PageCall.afterBegin_numbers setup _).2]
        exact iff_of_true rfl (.inr (List.mem_singleton_self _))
      · simpa [State.reset] using issued
      · simpa using changing
  | @resume world earlier later part outcome reachable underWay changing =>
      have distinct := reachable.numbersDistinct
      have effect := Pending.resume_effect setup world.state outcome part
      rw [World.resumed_state]
      generalize (part.resume setup world.state outcome).state = next at effect ⊢
      cases effect with
      | settled newest =>
          rw [distinct.page_ends underWay]
          simp [State.settled, newest]
      | overtaken superseded =>
          rw [distinct.page_stays underWay]
          · exact changing
          · intro call failed same
            cases same
            exact superseded
      | late asked superseded =>
          rw [distinct.page_stays underWay]
          · exact changing
          · intro call failed same
            subst same
            exact absurd rfl asked
      | _ =>
          rw [distinct.page_stays underWay (by simp)]
          exact changing

/-- In every world that can be reached status and flags go together. -/
theorem Reachable.consistent
    {setup : Setup}
    {world : World ε}
    (reachable : Reachable setup world) :
    world.state.Consistent := by
  induction reachable with
  | initial least greatest => exact .initial least greatest
  | start reachable starts consistent =>
      rw [World.begun_state]
      rcases State.start?_cases starts with
        ⟨active, page, query, _, rfl, _⟩ | ⟨page, rfl, _⟩ | ⟨rfl, _⟩ |
          ⟨⟨texts, textFilter, genres, collections, dates, rfl⟩, _⟩
      · exact .searchingFor _ active
      · exact consistent.changingPage
      · exact .reset _
      · exact { consistent with }
  | @resume world earlier later part outcome reachable underWay consistent =>
      have searched :
          ∀ call, .searching call = part -> call.generation = world.state.generation ->
            world.state.hasSearched = true := by
        rintro call rfl newest
        refine consistent.hasSearched_of_isSearching (reachable.searching_iff.2 ?_)
        exact (world.mem_searchGenerations_iff _).2 ⟨call, by simp [underWay], newest⟩
      have effect := Pending.resume_effect setup world.state outcome part
      rw [World.resumed_state]
      generalize (part.resume setup world.state outcome).state = next at effect ⊢
      cases effect with
      | @searchFailed call failure newest fails =>
          exact consistent.searchFailed (searched call rfl newest) failure
      | @searchAnswered call batch newest succeeds =>
          exact consistent.searchAnswered (searched call rfl newest) setup call batch
      | settled newest => exact consistent.settled _
      | _ => exact { consistent with }

/-- Without calls under way no flag is set. -/
theorem Reachable.flags_at_rest
    {setup : Setup}
    {world : World ε}
    (reachable : Reachable setup world)
    (rests : world.pending = []) :
    world.state.isSearching = false ∧ world.state.isChangingPage = false := by
  constructor
  · refine Bool.eq_false_iff.2 fun searching => ?_
    have held := reachable.searching_iff.1 searching
    simp [World.searchGenerations, rests] at held
  · refine Bool.eq_false_iff.2 fun changing => ?_
    have held := reachable.changing_iff.1 changing
    simp [World.pageRequests, rests] at held

/-- Without calls under way the status is a final one. -/
theorem Reachable.status_at_rest
    {setup : Setup}
    {world : World ε}
    (reachable : Reachable setup world)
    (rests : world.pending = []) :
    world.state.status = .idle ∨ world.state.status = .ready ∨
      world.state.status = .failed ∨ world.state.status = .pageFailed := by
  obtain ⟨notSearching, notChanging⟩ := reachable.flags_at_rest rests
  have consistent := reachable.consistent
  cases status_eq : world.state.status with
  | searching =>
      have searching := consistent.searching_iff.2 status_eq
      rw [notSearching] at searching
      cases searching
  | changingPage =>
      have changing := consistent.changing status_eq
      rw [notChanging] at changing
      cases changing
  | _ => simp

/-- Status and flags always tell what is under way. A session is searching, by its flag and by
its status, exactly while the search of the current generation is under way, and changing
the page, by its flag, exactly while the holder of the newest page request is a page change
under way. The status of a page change shows only then, and never while a search runs. A
session has searched exactly when a search is active and when it is not idle. Without calls
under way both flags are clear and the status is a final one. -/
theorem status_and_flags_tell_calls_under_way
    {setup : Setup}
    {world : World ε}
    (reachable : Reachable setup world) :
    (world.state.isSearching = true ↔ world.state.status = .searching) ∧
    (world.state.status = .searching ↔
      ∃ call, .searching call ∈ world.pending ∧ call.generation = world.state.generation) ∧
    (world.state.isChangingPage = true ↔
      ∃ part ∈ world.pending, ∃ call,
        part.pageCall? = some call ∧ call.request = world.state.pageRequest) ∧
    (world.state.status = .changingPage ->
      world.state.isChangingPage = true ∧ world.state.isSearching = false) ∧
    (world.state.hasSearched = true ↔ world.state.search ≠ none) ∧
    (world.state.search ≠ none ↔ world.state.status ≠ .idle) ∧
    (world.pending = [] ->
      world.state.isSearching = false ∧ world.state.isChangingPage = false ∧
        (world.state.status = .idle ∨ world.state.status = .ready ∨
          world.state.status = .failed ∨ world.state.status = .pageFailed)) := by
  obtain ⟨searching_iff, changing, searched_iff_search, searched_iff_status⟩ :=
    reachable.consistent
  have searchUnderWay := reachable.searching_iff
  have pageUnderWay := reachable.changing_iff
  rw [World.mem_searchGenerations_iff] at searchUnderWay
  rw [World.mem_pageRequests_iff] at pageUnderWay
  refine ⟨searching_iff, searching_iff.symm.trans searchUnderWay, pageUnderWay, ?_,
    searched_iff_search, searched_iff_search.symm.trans searched_iff_status, ?_⟩
  · intro status_eq
    refine ⟨changing status_eq, Bool.eq_false_iff.2 fun searching => ?_⟩
    rw [searching_iff, status_eq] at searching
    cases searching
  · intro rests
    obtain ⟨notSearching, notChanging⟩ := reachable.flags_at_rest rests
    exact ⟨notSearching, notChanging, reachable.status_at_rest rests⟩

/-- When calls overlap, the newest search and the newest page change are the ones that the
flags tell of. -/
theorem status_and_flags_in_overlappingCalls :
    ∃ world,
      (World.initial 0 2000).run? smallSetup overlappingCalls = some world ∧
      world.state.isSearching = true ∧
      world.state.isChangingPage = true ∧
      world.state.status = .searching ∧
      (∃ call, .searching call ∈ world.pending ∧ call.generation = 2) ∧
      ∃ part ∈ world.pending, ∃ call, part.pageCall? = some call ∧ call.request = 5 := by
  have summary :
      ((World.initial 0 2000).run? smallSetup overlappingCalls).map
          (fun world =>
            (world.state.generation, world.state.pageRequest, world.state.isChangingPage,
              world.state.status)) =
        some (2, 5, true, .searching) := by
    decide
  obtain ⟨world, runs, equal⟩ := Option.map_eq_some_iff.1 summary
  simp only [Prod.mk.injEq] at equal
  obtain ⟨generation_eq, request_eq, changing, status_eq⟩ := equal
  obtain ⟨searching_iff, searchUnderWay, pageUnderWay, _⟩ :=
    status_and_flags_tell_calls_under_way ((Reachable.initial 0 2000).run? runs)
  refine ⟨world, runs, searching_iff.2 status_eq, changing, status_eq, ?_, ?_⟩
  · rw [← generation_eq]
    exact searchUnderWay.1 status_eq
  · rw [← request_eq]
    exact pageUnderWay.1 changing

end Session
end Concordance
