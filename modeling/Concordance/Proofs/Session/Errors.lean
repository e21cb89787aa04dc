import Concordance.Proofs.Session.Flags

/-!
# Errors and the status

A session keeps its last error, and its status tells whether the last search or page change
failed. A status that tells of a failure always comes with an error. The other way round
this holds only for errors that get told: a page change notes its failure in the session at
once, but puts it into the status when it settles, and only as the newest one.

The main statement says exactly which errors are missed. An error is overlooked when a page
change notes a failure that it will not tell, or when a newer page change begins before the
failure is told; from then on the session can be ready and carry an error, until a search or
a reset clears it or another failure is told.
-/

namespace Concordance
namespace Session

variable {ε : Type}

/-- The status tells of a failure of the last search or page change. -/
def State.TellsFailure (state : State ε) : Prop :=
  state.status = .failed ∨ state.status = .pageFailed

/-- The failure of a page change is told: the status tells of one already, or the page change
is the newest one and the status waits for it to settle. -/
def State.WillTell (state : State ε) (call : PageCall) : Prop :=
  state.TellsFailure ∨
    state.status = .changingPage ∧ call.request = state.pageRequest

/-- A page change that failed holds the newest page request and has yet to tell so. -/
def World.AboutToTell (world : World ε) : Prop :=
  world.state.status = .changingPage ∧
    ∃ call, .settling call true ∈ world.pending ∧ call.request = world.state.pageRequest

/-- The worlds in which an error is overlooked. It is noted and will not be told, or a page
change overtakes the one that is about to tell it. It stays overlooked while no new
generation opens and no failure is told. -/
inductive Overlooked [Worded ε] (setup : Setup) : World ε -> Prop
  | noted
      {world : World ε}
      {earlier later : List Pending}
      {call : PageCall}
      {query : Query}
      (failure : ε)
      (reachable : Reachable setup world)
      (underWay : world.pending = earlier ++ .fetching call query :: later)
      (current : call.generation = world.state.generation)
      (untold : ¬world.state.WillTell call) :
      Overlooked setup
        (world.resumed earlier later
          ((Pending.fetching call query).resume setup world.state (.error failure)))
  | overtaken
      {world : World ε}
      {call : Call}
      {state : State ε}
      {calls : List Pending}
      (reachable : Reachable setup world)
      (waits : world.AboutToTell)
      (starts : world.state.start? setup call = some (state, calls))
      (sameGeneration : state.generation = world.state.generation)
      (newer : state.pageRequest ≠ world.state.pageRequest) :
      Overlooked setup (world.begun state calls)
  | begun
      {world : World ε}
      {call : Call}
      {state : State ε}
      {calls : List Pending}
      (overlooked : Overlooked setup world)
      (starts : world.state.start? setup call = some (state, calls))
      (sameGeneration : state.generation = world.state.generation) :
      Overlooked setup (world.begun state calls)
  | resumed
      {world : World ε}
      {earlier later : List Pending}
      {part : Pending}
      {outcome : Except ε Batch}
      (overlooked : Overlooked setup world)
      (underWay : world.pending = earlier ++ part :: later)
      (untold : ¬(part.resume setup world.state outcome).state.TellsFailure) :
      Overlooked setup
        (world.resumed earlier later (part.resume setup world.state outcome))

namespace State

variable {state : State ε}

/-- A session that has searched carries an error, and its status tells of no failure. -/
structure CarriesUntold (state : State ε) : Prop where
  noted : state.lastError ≠ none
  untold : ¬state.TellsFailure
  searched : state.status ≠ .idle

/-- A call that begins without a new generation leaves an error untold. -/
theorem CarriesUntold.start
    (carries : state.CarriesUntold)
    {setup : Setup}
    {call : Call}
    {next : State ε}
    {calls : List Pending}
    (starts : state.start? setup call = some (next, calls))
    (sameGeneration : next.generation = state.generation) :
    next.CarriesUntold := by
  obtain ⟨noted, untold, searched⟩ := carries
  rcases start?_cases starts with
    ⟨active, page, query, _, rfl, _⟩ | ⟨page, rfl, _⟩ | ⟨rfl, _⟩ |
      ⟨⟨texts, textFilter, genres, collections, dates, rfl⟩, _⟩
  · simp [searchingFor] at sameGeneration
  · have notFailed : state.status ≠ .pageFailed := fun same => untold (.inr same)
    refine ⟨?_, ?_, ?_⟩
    · simpa [changingPage, notFailed] using noted
    · simp only [TellsFailure, changingPage]
      split
      · simp
      · exact untold
    · simp only [changingPage]
      split
      · simp
      · exact searched
  · simp [reset] at sameGeneration
  · exact ⟨noted, untold, searched⟩

/-- A page change that begins keeps a failure that the status goes on telling of. -/
theorem lastError_changingPage
    (noted : state.TellsFailure -> state.lastError ≠ none)
    (tells : state.changingPage.TellsFailure) :
    state.changingPage.lastError ≠ none := by
  simp only [TellsFailure, changingPage] at tells ⊢
  split at tells
  · rcases tells with impossible | impossible <;> cases impossible
  · rename_i hidden
    have stays : state.status ≠ .pageFailed := fun same => hidden (.inr same)
    rw [if_neg stays]
    exact noted tells

/-- A page change that settles without a failure tells of none. -/
theorem tellsFailure_of_settled (tells : (state.settled false).TellsFailure) :
    state.TellsFailure := by
  simp only [TellsFailure, settled] at tells
  split at tells
  · rcases tells with impossible | impossible <;> cases impossible
  · exact tells

end State

theorem PageCall.afterBegin_ne_failed (setup : Setup) (call other : PageCall) :
    call.afterBegin setup ≠ .settling other true := by
  unfold PageCall.afterBegin
  split <;> simp

/-- A call under way that does not run stays under way. -/
theorem World.mem_resumed_pending_of_ne
    {world after : World ε}
    {earlier later : List Pending}
    {part other : Pending}
    (underWay : world.pending = earlier ++ part :: later)
    (member : other ∈ world.pending)
    (different : other ≠ part) :
    other ∈ (world.resumed earlier later after).pending := by
  rw [underWay, List.mem_append, List.mem_cons] at member
  rw [resumed_pending, List.append_assoc, List.mem_append, List.mem_append]
  rcases member with before | same | behind
  · exact .inl before
  · exact absurd same different
  · exact .inr (.inr behind)

namespace Pending

variable [Worded ε] {setup : Setup} {state : State ε} {outcome : Except ε Batch} {part : Pending}

/-- No section of a call under way clears the last error. -/
theorem resume_lastError
    (kept : state.lastError ≠ none) :
    (part.resume setup state outcome).state.lastError ≠ none := by
  have effect := resume_effect setup state outcome part
  generalize (part.resume setup state outcome).state = next at effect ⊢
  cases effect with
  | searchFailed newest fails => exact Option.some_ne_none _
  | fetchFailed newest fails => exact Option.some_ne_none _
  | _ => exact kept

/-- No section of a call under way makes a session idle. -/
theorem resume_status_ne_idle
    (searched : state.status ≠ .idle) :
    (part.resume setup state outcome).state.status ≠ .idle := by
  have effect := resume_effect setup state outcome part
  generalize (part.resume setup state outcome).state = next at effect ⊢
  cases effect with
  | searchFailed newest fails => exact Status.noConfusion
  | searchAnswered newest succeeds => exact Status.noConfusion
  | @settled call failed newest =>
      simp only [State.settled]
      split
      · cases failed <;> exact Status.noConfusion
      · exact searched
  | _ => exact searched

/-- A page change that goes on as failed has noted its failure, unless it is of another
generation. -/
theorem resume_noted
    {call : PageCall}
    (remains : .settling call true ∈ (part.resume setup state outcome).pending)
    (current : call.generation = state.generation) :
    (part.resume setup state outcome).state.lastError ≠ none := by
  cases part with
  | searching call => cases remains
  | fetching other query =>
      have same := (of_mem_resume_pending remains).2.1
      cases same
      cases outcome with
      | error failure =>
          simp only [resume, State.receivePage_error current]
          exact Option.some_ne_none _
      | ok batch =>
          simp [resume, State.receivePage_ok current, PageCall.afterArrival] at remains
  | showing other => simp [resume] at remains
  | settling other failed => cases remains

end Pending

variable [Worded ε]

/-- In every world that can be reached the newest page change, when it has failed, has noted
its failure. -/
theorem Reachable.lastError_of_newest_failed
    {setup : Setup}
    {world : World ε}
    (reachable : Reachable setup world)
    {call : PageCall}
    (underWay : .settling call true ∈ world.pending)
    (newest : call.request = world.state.pageRequest) :
    world.state.lastError ≠ none := by
  induction reachable generalizing call with
  | initial least greatest => cases underWay
  | @start world started state calls reachable starts noted =>
      rw [World.begun_pending, List.mem_append] at underWay
      rw [World.begun_state] at newest ⊢
      have issued : .settling call true ∈ world.pending ->
          call.request ≤ world.state.pageRequest :=
        fun older => (reachable.requestsInOrder _ older call rfl).1
      rcases State.start?_cases starts with
        ⟨active, page, query, _, rfl, rfl⟩ | ⟨page, rfl, rfl⟩ | ⟨rfl, rfl⟩ |
          ⟨⟨texts, textFilter, genres, collections, dates, rfl⟩, rfl⟩
      · have older := underWay.resolve_right (by simp)
        have := issued older
        simp only [State.searchingFor] at newest
        omega
      · have older := underWay.resolve_right fun begun =>
          PageCall.afterBegin_ne_failed _ _ _ (List.mem_singleton.1 begun).symm
        have := issued older
        simp only [State.changingPage] at newest
        omega
      · have older := underWay.resolve_right List.not_mem_nil
        have := issued older
        simp only [State.reset] at newest
        omega
      · exact noted (underWay.resolve_right List.not_mem_nil) newest
  | @resume world earlier later part outcome reachable here noted =>
      have request_eq := (Pending.resume_frame setup world.state outcome part).2.1
      have generation_eq := (Pending.resume_frame setup world.state outcome part).1
      rw [World.resumed_state] at newest ⊢
      rw [request_eq] at newest
      rcases World.of_mem_resumed_pending here underWay with before | remains
      · exact Pending.resume_lastError (noted before newest)
      · have ordered := (reachable.resume outcome here).requestsInOrder _ underWay call rfl
        rw [World.resumed_state, request_eq, generation_eq] at ordered
        exact Pending.resume_noted remains (ordered.2 newest)

/-- A session whose page change waits for the backend is not idle, unless the page change is
of another generation. -/
theorem Reachable.status_ne_idle_of_fetching
    {setup : Setup}
    {world : World ε}
    (reachable : Reachable setup world)
    {call : PageCall}
    {query : Query}
    (underWay : .fetching call query ∈ world.pending)
    (current : call.generation = world.state.generation) :
    world.state.status ≠ .idle := by
  obtain ⟨_, _, search, active, _⟩ := reachable.asksActive.offset_eq underWay current rfl
  have consistent := reachable.consistent
  rw [← consistent.searched_iff_status, consistent.searched_iff_search, active]
  exact Option.some_ne_none _

/-- In every world that can be reached a status that tells of a failure comes with an
error. -/
theorem Reachable.lastError_of_tellsFailure
    {setup : Setup}
    {world : World ε}
    (reachable : Reachable setup world)
    (tells : world.state.TellsFailure) :
    world.state.lastError ≠ none := by
  induction reachable with
  | initial least greatest => simp [State.TellsFailure, World.initial, State.initial] at tells
  | start reachable starts noted =>
      rw [World.begun_state] at tells ⊢
      rcases State.start?_cases starts with
        ⟨active, page, query, _, rfl, _⟩ | ⟨page, rfl, _⟩ | ⟨rfl, _⟩ |
          ⟨⟨texts, textFilter, genres, collections, dates, rfl⟩, _⟩
      · simp [State.TellsFailure, State.searchingFor] at tells
      · exact State.lastError_changingPage noted tells
      · simp [State.TellsFailure, State.reset] at tells
      · exact noted tells
  | @resume world earlier later part outcome reachable underWay noted =>
      have effect := Pending.resume_effect setup world.state outcome part
      rw [World.resumed_state] at tells ⊢
      generalize (part.resume setup world.state outcome).state = next at effect tells ⊢
      cases effect with
      | searchFailed newest fails => exact Option.some_ne_none _
      | searchAnswered newest succeeds =>
          simp [State.TellsFailure, State.searchAnswered] at tells
      | fetchFailed newest fails => exact Option.some_ne_none _
      | @settled call failed newest =>
          cases failed with
          | true => exact reachable.lastError_of_newest_failed (by simp [underWay]) newest
          | false => exact noted (State.tellsFailure_of_settled tells)
      | _ => exact noted tells

/-- An error that is overlooked is there, beside a status that tells of no failure. -/
theorem Overlooked.carriesUntold
    {setup : Setup}
    {world : World ε}
    (overlooked : Overlooked setup world) :
    world.state.CarriesUntold := by
  induction overlooked with
  | @noted world earlier later call query failure reachable underWay current untold =>
      have member : .fetching call query ∈ world.pending := by simp [underWay]
      have searched := reachable.status_ne_idle_of_fetching member current
      rw [World.resumed_state, Pending.resume, State.receivePage_error current]
      exact ⟨Option.some_ne_none _, fun tells => untold (.inl tells), searched⟩
  | @overtaken world call state calls reachable waits starts sameGeneration newer =>
      obtain ⟨changing, call, underWay, newest⟩ := waits
      have noted := reachable.lastError_of_newest_failed underWay newest
      refine State.CarriesUntold.start ⟨noted, ?_, ?_⟩ starts sameGeneration
      · simp [State.TellsFailure, changing]
      · simp [changing]
  | begun overlooked starts sameGeneration carries => exact carries.start starts sameGeneration
  | @resumed world earlier later part outcome overlooked underWay untold carries =>
      refine ⟨Pending.resume_lastError carries.noted, untold, ?_⟩
      exact Pending.resume_status_ne_idle carries.searched

/-- A session is searching while the search of its generation is under way. -/
theorem Reachable.status_of_searching
    {setup : Setup}
    {world : World ε}
    (reachable : Reachable setup world)
    {call : SearchCall}
    (underWay : .searching call ∈ world.pending)
    (current : call.generation = world.state.generation) :
    world.state.status = .searching :=
  reachable.consistent.searching_iff.1 <| reachable.searching_iff.2 <|
    (world.mem_searchGenerations_iff _).2 ⟨call, underWay, current⟩

section Sections

variable
  {setup : Setup}
  {world : World ε}
  (reachable : Reachable setup world)
  {earlier later : List Pending}
  {part : Pending}
  (underWay : world.pending = earlier ++ part :: later)
  (outcome : Except ε Batch)

include reachable underWay

/-- A failure that is told stays told until a call begins. -/
theorem Reachable.tellsFailure_resumed (tells : world.state.TellsFailure) :
    (part.resume setup world.state outcome).state.TellsFailure := by
  have effect := Pending.resume_effect setup world.state outcome part
  generalize (part.resume setup world.state outcome).state = next at effect ⊢
  cases effect with
  | searchFailed newest fails => exact .inl rfl
  | searchAnswered newest succeeds =>
      have searching := reachable.status_of_searching (by simp [underWay]) newest
      simp [State.TellsFailure, searching] at tells
  | settled newest =>
      have settled : world.state.status ≠ .changingPage := fun changing => by
        simp [State.TellsFailure, changing] at tells
      simpa [State.TellsFailure, State.settled, settled] using tells
  | _ => exact tells

/-- The newest page change that has failed is still about to tell so after a section of
another call, or it has told so. -/
theorem Reachable.aboutToTell_resumed (waits : world.AboutToTell) :
    (part.resume setup world.state outcome).state.TellsFailure ∨
      (world.resumed earlier later
        (part.resume setup world.state outcome)).AboutToTell := by
  obtain ⟨changing, call, waiting, newest⟩ := waits
  by_cases same : .settling call true = part
  · subst same
    refine .inl (.inr ?_)
    rw [Pending.resume, State.settlePage_of_newest newest]
    simp [State.settled, changing]
  · have stays : .settling call true ∈
        (world.resumed earlier later (part.resume setup world.state outcome)).pending :=
      World.mem_resumed_pending_of_ne underWay waiting same
    have held := (World.mem_pageRequests_iff _ _).2 ⟨_, stays, call, rfl, newest⟩
    have request_eq := (Pending.resume_frame setup world.state outcome part).2.1
    rw [World.AboutToTell, World.resumed_state, request_eq]
    have effect := Pending.resume_effect setup world.state outcome part
    generalize (part.resume setup world.state outcome).state = next at effect ⊢
    cases effect with
    | searchFailed newest fails => exact .inl (.inl rfl)
    | searchAnswered newest succeeds =>
        have searching := reachable.status_of_searching (by simp [underWay]) newest
        rw [changing] at searching
        cases searching
    | settled alsoNewest =>
        rw [reachable.numbersDistinct.page_ends underWay] at held
        exact absurd alsoNewest.symm held.2
    | _ => exact .inr ⟨changing, call, stays, newest⟩

omit reachable underWay in
/-- An error that is there after a section was there before, unless the section noted it or
told it. -/
theorem Pending.lastError_before
    (noted : (part.resume setup world.state outcome).state.lastError ≠ none) :
    world.state.lastError ≠ none ∨
      (part.resume setup world.state outcome).state.TellsFailure ∨
      ∃ call query failure, part = .fetching call query ∧ outcome = .error failure ∧
        call.generation = world.state.generation := by
  have effect := Pending.resume_effect setup world.state outcome part
  generalize (part.resume setup world.state outcome).state = next at effect noted ⊢
  cases effect with
  | searchFailed newest fails => exact .inr (.inl (.inl rfl))
  | @fetchFailed call query failure newest fails =>
      exact .inr (.inr ⟨call, query, failure, rfl, fails, newest⟩)
  | _ => exact .inl noted

end Sections

/-- In every world that can be reached an error is told, or about to be told, or
overlooked. -/
theorem Reachable.told_or_overlooked
    {setup : Setup}
    {world : World ε}
    (reachable : Reachable setup world)
    (noted : world.state.lastError ≠ none) :
    world.state.TellsFailure ∨ world.AboutToTell ∨ Overlooked setup world := by
  induction reachable with
  | initial least greatest => exact absurd rfl noted
  | @start world call state calls reachable starts before =>
      rw [World.begun_state] at noted
      rcases State.start?_cases starts with
        ⟨active, page, query, _, rfl, _⟩ | ⟨page, rfl, _⟩ | ⟨rfl, _⟩ |
          ⟨⟨texts, textFilter, genres, collections, dates, rfl⟩, rfl⟩
      · exact absurd rfl noted
      · have notTold : world.state.status ≠ .pageFailed := fun same =>
          noted (by simp [State.changingPage, same])
        have kept : world.state.lastError ≠ none := by
          simpa [State.changingPage, notTold] using noted
        rcases before kept with failed | waits | overlooked
        · have failed := failed.resolve_right notTold
          exact .inl (.inl (by simp [State.changingPage, failed]))
        · exact .inr (.inr (.overtaken reachable waits starts rfl (Nat.succ_ne_self _)))
        · exact .inr (.inr (.begun overlooked starts rfl))
      · exact absurd rfl noted
      · rcases before noted with tells | ⟨changing, call, underWay, newest⟩ | overlooked
        · exact .inl tells
        · exact .inr (.inl ⟨changing, call, List.mem_append_left _ underWay, newest⟩)
        · exact .inr (.inr (.begun overlooked starts rfl))
  | @resume world earlier later part outcome reachable underWay before =>
      by_cases tells : (part.resume setup world.state outcome).state.TellsFailure
      · exact .inl tells
      rcases Pending.lastError_before outcome noted with
        kept | told | ⟨call, query, failure, rfl, rfl, current⟩
      · rcases before kept with told | waits | overlooked
        · exact absurd (reachable.tellsFailure_resumed underWay outcome told) tells
        · have stillWaits := reachable.aboutToTell_resumed underWay outcome waits
          exact .inr (.inl (stillWaits.resolve_left tells))
        · exact .inr (.inr (.resumed overlooked underWay tells))
      · exact absurd told tells
      · by_cases told : world.state.WillTell call
        · rcases told with told | ⟨changing, newest⟩
          · exact absurd (reachable.tellsFailure_resumed underWay _ told) tells
          · refine .inr (.inl ?_)
            rw [World.AboutToTell, World.resumed_state, World.resumed_pending]
            simp only [Pending.resume, State.receivePage_error current]
            exact ⟨changing, call, by simp [PageCall.afterArrival], newest⟩
        · exact .inr (.inr (.noted failure reachable underWay current told))

/-- When the last error agrees with the status. Without calls under way, a session has an
error exactly when its status tells of a failure, except where an error is overlooked; then,
and only then, it is ready and carries an error. A status that tells of a failure always
comes with an error. -/
theorem error_agrees_with_status_at_rest_iff
    {setup : Setup}
    {world : World ε}
    (reachable : Reachable setup world)
    (rests : world.pending = []) :
    ((world.state.lastError.isSome = true ↔
        world.state.status = .failed ∨ world.state.status = .pageFailed) ↔
      ¬Overlooked setup world) ∧
    (Overlooked setup world ↔
      world.state.status = .ready ∧ world.state.lastError.isSome = true) ∧
    (world.state.status = .failed ∨ world.state.status = .pageFailed ->
      world.state.lastError.isSome = true) := by
  simp only [Option.isSome_iff_ne_none]
  have told : world.state.TellsFailure -> world.state.lastError ≠ none :=
    reachable.lastError_of_tellsFailure
  have missed : world.state.lastError ≠ none -> ¬world.state.TellsFailure ->
      Overlooked setup world := by
    intro noted untold
    rcases reachable.told_or_overlooked noted with tells | ⟨_, call, waiting, _⟩ | overlooked
    · exact absurd tells untold
    · rw [rests] at waiting
      cases waiting
    · exact overlooked
  refine ⟨⟨?_, ?_⟩, ⟨?_, ?_⟩, told⟩
  · intro agrees overlooked
    exact overlooked.carriesUntold.untold (agrees.1 overlooked.carriesUntold.noted)
  · intro noticed
    exact ⟨fun noted => not_not.1 fun untold => noticed (missed noted untold), told⟩
  · intro overlooked
    obtain ⟨noted, untold, searched⟩ := overlooked.carriesUntold
    refine ⟨?_, noted⟩
    rcases reachable.status_at_rest rests with idle | ready | failed | pageFailed
    · exact absurd idle searched
    · exact ready
    · exact absurd (.inl failed) untold
    · exact absurd (.inr pageFailed) untold
  · rintro ⟨ready, noted⟩
    exact missed noted (by simp [State.TellsFailure, ready])

/-- A search that is answered, and a page change that fails. -/
def failedPage : List (Event Backend.GatewayError) :=
  [.start (.search (wordSearch "word") none 1),
    .resume 0 (.ok (hitsAt ["hit0", "hit1", "hit2", "hit3"])),
    .start (.changePage 3),
    .resume 0 (.error (.beyondWindow 10 4)),
    .resume 0 (.ok (hitsAt []))]

/-- The failure of a page change that nothing overtakes is told: the error is there and no
error is overlooked. -/
theorem error_agrees_with_status_after_failedPage :
    ∃ world,
      (World.initial 0 2000).run? smallSetup failedPage = some world ∧
      world.pending = [] ∧
      world.state.status = .pageFailed ∧
      world.state.lastError.isSome = true ∧
      ¬Overlooked smallSetup world := by
  have summary :
      ((World.initial 0 2000).run? smallSetup failedPage).map
          (fun world => (world.pending.length, world.state.status)) =
        some (0, .pageFailed) := by
    decide
  obtain ⟨world, runs, equal⟩ := Option.map_eq_some_iff.1 summary
  simp only [Prod.mk.injEq, List.length_eq_zero_iff] at equal
  obtain ⟨rests, status_eq⟩ := equal
  obtain ⟨agrees_iff, _, told⟩ :=
    error_agrees_with_status_at_rest_iff ((Reachable.initial 0 2000).run? runs) rests
  have noted := told (.inr status_eq)
  exact ⟨world, runs, rests, status_eq, noted,
    agrees_iff.1 (iff_of_true noted (.inr status_eq))⟩

/-- A search that is answered and two page changes: the first waits for the backend while the
second shows its page from the cache and settles, and then the first one fails. -/
def overtakenFailure : List (Event Backend.GatewayError) :=
  [.start (.search (wordSearch "word") none 1),
    .resume 0 (.ok (hitsAt ["hit0", "hit1", "hit2", "hit3"])),
    .start (.changePage 3),
    .start (.changePage 2),
    .resume 1 (.ok (hitsAt [])),
    .resume 1 (.ok (hitsAt [])),
    .resume 0 (.error (.beyondWindow 10 4)),
    .resume 0 (.ok (hitsAt []))]

/-- A session without calls under way can be ready and carry the error of an older page
change. -/
theorem overtakenFailure_leaves_error_when_ready :
    ∃ world : World Backend.GatewayError,
      (World.initial 0 2000).run? smallSetup overtakenFailure = some world ∧
      world.pending = [] ∧
      world.state.status = .ready ∧
      world.state.page = 2 ∧
      world.state.lastError.isSome = true := by
  have summary :
      ((World.initial 0 2000).run? smallSetup overtakenFailure).map
          (fun world =>
            (world.pending.length, world.state.status, world.state.page,
              world.state.lastError.isSome)) =
        some (0, .ready, 2, true) := by
    decide
  obtain ⟨world, runs, equal⟩ := Option.map_eq_some_iff.1 summary
  simp only [Prod.mk.injEq, List.length_eq_zero_iff] at equal
  obtain ⟨rests, status_eq, page_eq, noted⟩ := equal
  exact ⟨world, runs, rests, status_eq, page_eq, noted⟩

end Session
end Concordance
