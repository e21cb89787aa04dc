import Concordance.Backend.Gateway
import Concordance.Proofs.Session.Sections

/-!
# Superseded calls

A search or a reset supersedes every call that began before it, and a page change
supersedes every earlier page change. The main statement says that nothing a
superseded call still does can be seen: the calls of an older generation leave the
session as it is, and an older page change of the same generation can at most keep
its own batch or its failure.

The guards of the sections look at two counters, and settling looks at the page
request only. That this is enough rests on an invariant: a page change that holds the
newest page request was begun in the current generation.
-/

namespace Concordance
namespace Session

variable {ε : Type}

/-- The page changes under way hold page requests that were given out, and the newest
request belongs to the current generation. -/
def World.RequestsInOrder (world : World ε) : Prop :=
  ∀ part ∈ world.pending, ∀ call, part.pageCall? = some call ->
    call.request ≤ world.state.pageRequest ∧
      (call.request = world.state.pageRequest -> call.generation = world.state.generation)

/-- A call that counts up the page request supersedes all page changes under way. -/
theorem World.RequestsInOrder.begun
    {world : World ε}
    (ordered : world.RequestsInOrder)
    {state : State ε}
    (counted : state.pageRequest = world.state.pageRequest + 1)
    {calls : List Pending}
    (newest : ∀ part ∈ calls, ∀ call, part.pageCall? = some call ->
      call.request = state.pageRequest ∧ call.generation = state.generation) :
    (world.begun state calls).RequestsInOrder := by
  intro part member call isPage
  rcases List.mem_append.1 member with older | begun
  · have issued := (ordered part older call isPage).1
    simp only [begun_state]
    exact ⟨by omega, fun impossible => by omega⟩
  · obtain ⟨request_eq, generation_eq⟩ := newest part begun call isPage
    exact ⟨Nat.le_of_eq request_eq, fun _ => generation_eq⟩

/-- In every world that can be reached the page requests are in order. -/
theorem Reachable.requestsInOrder [Worded ε]
    {setup : Setup}
    {world : World ε}
    (reachable : Reachable setup world) :
    world.RequestsInOrder := by
  induction reachable with
  | initial least greatest =>
      intro part member
      cases member
  | start reachable starts ordered =>
      rcases State.start?_cases starts with
        ⟨active, page, query, _, rfl, rfl⟩ | ⟨page, rfl, rfl⟩ | ⟨rfl, rfl⟩ |
          ⟨⟨texts, textFilter, genres, collections, dates, rfl⟩, rfl⟩
      · refine ordered.begun rfl fun part member call isPage => ?_
        cases List.mem_singleton.1 member
        cases isPage
      · refine ordered.begun rfl fun part member call isPage => ?_
        cases List.mem_singleton.1 member
        rw [(Pending.afterBegin_pageCall? setup _).1] at isPage
        cases isPage
        exact ⟨rfl, rfl⟩
      · exact ordered.begun rfl fun part member => by cases member
      · intro part member
        rw [World.begun_pending, List.append_nil] at member
        exact ordered part member
  | @resume world earlier later part outcome reachable underWay ordered =>
      obtain ⟨generation_eq, request_eq, _⟩ :=
        Pending.resume_frame setup world.state outcome part
      intro rest remains call isPage
      rw [World.resumed_state, generation_eq, request_eq]
      rcases World.of_mem_resumed_pending underWay remains with before | here
      · exact ordered rest before call isPage
      · refine ordered part (by simp [underWay]) call ?_
        rw [← (Pending.of_mem_resume_pending here).2.1, isPage]

/-- A page change under way has the generation of its call. -/
theorem Pending.generation_eq
    {part : Pending}
    {call : PageCall}
    (isPage : part.pageCall? = some call) :
    part.generation = call.generation := by
  cases part with
  | searching call => cases isPage
  | fetching call query => cases isPage; rfl
  | showing call => cases isPage; rfl
  | settling call failed => cases isPage; rfl

section

variable [Worded ε] {setup : Setup} {state : State ε} {part : Pending}

/-- A call of another generation leaves the session as it is, provided that it does not
hold the newest page request. -/
theorem Pending.resume_of_superseded_generation
    (superseded : part.generation ≠ state.generation)
    (overtaken : ∀ call, part.pageCall? = some call -> call.request ≠ state.pageRequest)
    (outcome : Except ε Batch) :
    (part.resume setup state outcome).state = state := by
  have effect := resume_effect setup state outcome part
  generalize (part.resume setup state outcome).state = next at effect ⊢
  cases effect with
  | searchFailed newest fails => exact absurd newest superseded
  | searchAnswered newest succeeds => exact absurd newest superseded
  | fetchFailed newest fails => exact absurd newest superseded
  | fetched newest succeeds => exact absurd newest superseded
  | shown shows => exact absurd shows.request_eq (overtaken _ rfl)
  | settled newest => exact absurd newest (overtaken _ rfl)
  | _ => rfl

/-- A page change that is not the newest one changes at most the cache, by its own batch,
and the last error, by its own failure. -/
theorem Pending.resume_of_superseded_request
    {call : PageCall}
    (isPage : part.pageCall? = some call)
    (superseded : call.request ≠ state.pageRequest)
    (outcome : Except ε Batch) :
    ∃ cache lastError,
      (part.resume setup state outcome).state = { state with cache, lastError } ∧
      (cache = state.cache ∨
        ∃ batch, outcome = .ok batch ∧
          cache = writeBatch setup.paging state.cache (call.batchStart setup) batch.hits) ∧
      (lastError = state.lastError ∨
        ∃ failure, outcome = .error failure ∧ lastError = some failure) := by
  have effect := resume_effect setup state outcome part
  generalize (part.resume setup state outcome).state = next at effect ⊢
  cases effect with
  | searchFailed newest fails => cases isPage
  | searchAnswered newest succeeds => cases isPage
  | @fetchFailed other query failure newest fails =>
      cases isPage
      exact ⟨state.cache, some failure, rfl, .inl rfl, .inr ⟨failure, fails, rfl⟩⟩
  | @fetched other query batch newest succeeds =>
      cases isPage
      exact ⟨_, state.lastError, rfl, .inr ⟨batch, succeeds, rfl⟩, .inl rfl⟩
  | shown shows =>
      cases isPage
      exact absurd shows.request_eq superseded
  | settled newest =>
      cases isPage
      exact absurd newest superseded
  | _ => exact ⟨state.cache, state.lastError, rfl, .inl rfl, .inl rfl⟩

end

/-- Superseded work cannot be seen. A call of another generation leaves the session as
it is, and when it is a page change its page request is not the newest one. A page
change whose request is not the newest one changes at most the cache, by its own batch,
and the last error, by its own failure. -/
theorem superseded_sections_leave_session [Worded ε]
    {setup : Setup}
    {world : World ε}
    (reachable : Reachable setup world)
    {part : Pending}
    (underWay : part ∈ world.pending)
    (outcome : Except ε Batch) :
    (part.generation ≠ world.state.generation ->
      (part.resume setup world.state outcome).state = world.state) ∧
    ∀ call, part.pageCall? = some call ->
      (call.generation ≠ world.state.generation ->
        call.request ≠ world.state.pageRequest) ∧
      (call.request ≠ world.state.pageRequest ->
        ∃ cache lastError,
          (part.resume setup world.state outcome).state =
            { world.state with cache, lastError } ∧
          (cache = world.state.cache ∨
            ∃ batch, outcome = .ok batch ∧
              cache = writeBatch setup.paging world.state.cache
                (call.batchStart setup) batch.hits) ∧
          (lastError = world.state.lastError ∨
            ∃ failure, outcome = .error failure ∧ lastError = some failure)) := by
  have overtaken : ∀ call, part.pageCall? = some call ->
      call.generation ≠ world.state.generation ->
      call.request ≠ world.state.pageRequest := by
    intro call isPage older newest
    exact older ((reachable.requestsInOrder part underWay call isPage).2 newest)
  refine ⟨fun superseded => ?_, fun call isPage => ⟨overtaken call isPage, ?_⟩⟩
  · refine Pending.resume_of_superseded_generation superseded (fun call isPage => ?_) outcome
    rw [Pending.generation_eq isPage] at superseded
    exact overtaken call isPage superseded
  · intro superseded
    exact Pending.resume_of_superseded_request isPage superseded outcome

/-- Two searches that overlap, with a page change of the first and two of the second. -/
def overlappingCalls : List (Event Backend.GatewayError) :=
  [.start (.search (wordSearch "old") none 1),
    .start (.changePage 1),
    .start (.search (wordSearch "new") none 1),
    .start (.changePage 1),
    .start (.changePage 3)]

/-- When calls overlap, the page change of the first search can no longer be seen, and
the earlier one of the second search can no longer move the display. -/
theorem superseded_sections_leave_overlappingCalls :
    ∃ world,
      (World.initial 0 2000).run? smallSetup overlappingCalls = some world ∧
      (∃ part ∈ world.pending,
        part.generation ≠ world.state.generation ∧
        ∀ outcome, (part.resume smallSetup world.state outcome).state = world.state) ∧
      ∃ part ∈ world.pending, ∃ call,
        part.pageCall? = some call ∧
        call.generation = world.state.generation ∧
        call.request ≠ world.state.pageRequest ∧
        ∀ outcome,
          (part.resume smallSetup world.state outcome).state.displayed =
            world.state.displayed := by
  have summary :
      ((World.initial 0 2000).run? smallSetup overlappingCalls).map
          (fun world =>
            (world.state.generation, world.state.pageRequest,
              world.pending.map fun part =>
                (part.generation, part.pageCall?.map PageCall.request))) =
        some (2, 5, [(1, none), (1, some 2), (2, none), (2, some 4), (2, some 5)]) := by
    decide
  obtain ⟨world, runs, equal⟩ := Option.map_eq_some_iff.1 summary
  simp only [Prod.mk.injEq] at equal
  obtain ⟨generation_eq, request_eq, pending_eq⟩ := equal
  have reachable := (Reachable.initial 0 2000).run? runs
  refine ⟨world, runs, ?_, ?_⟩
  · obtain ⟨part, underWay, part_eq⟩ :
        ∃ part ∈ world.pending,
          (part.generation, part.pageCall?.map PageCall.request) = (1, some 2) :=
      List.mem_map.1 (by simp [pending_eq])
    simp only [Prod.mk.injEq] at part_eq
    have superseded : part.generation ≠ world.state.generation := by omega
    exact ⟨part, underWay, superseded, fun outcome =>
      (superseded_sections_leave_session reachable underWay outcome).1 superseded⟩
  · obtain ⟨part, underWay, part_eq⟩ :
        ∃ part ∈ world.pending,
          (part.generation, part.pageCall?.map PageCall.request) = (2, some 4) :=
      List.mem_map.1 (by simp [pending_eq])
    simp only [Prod.mk.injEq] at part_eq
    obtain ⟨call, isPage, call_eq⟩ := Option.map_eq_some_iff.1 part_eq.2
    have superseded : call.request ≠ world.state.pageRequest := by omega
    have newest : call.generation = world.state.generation := by
      rw [← Pending.generation_eq isPage]
      omega
    refine ⟨part, underWay, call, isPage, newest, superseded, fun outcome => ?_⟩
    obtain ⟨cache, lastError, state_eq, _, _⟩ :=
      ((superseded_sections_leave_session reachable underWay outcome).2 call isPage).2
        superseded
    rw [state_eq]

end Session
end Concordance
