import Concordance.Proofs.Session.Sections

/-!
# Generations

The search that is active changes only together with the generation. So the
generation that a call carries tells which search it works for: no call and no answer
carries a later generation than the session, and a call of the current generation that
waits for the backend has asked the query of the active search for a whole batch.
-/

namespace Concordance
namespace Session

variable {ε : Type}

namespace State

/-- A call that begins opens a new generation, in which a search runs or nothing is
held or shown, or it leaves the search and its results alone. -/
theorem start?_frame
    {setup : Setup}
    {state next : State ε}
    {call : Call}
    {calls : List Pending}
    (starts : state.start? setup call = some (next, calls)) :
    (next.generation = state.generation + 1 ∧
      (next.isSearching = true ∧ next.cache = state.cache ∨
        next.cache = .empty ∧ next.displayed = [])) ∨
      (next.generation = state.generation ∧ next.search = state.search ∧
        next.cache = state.cache ∧ next.displayed = state.displayed ∧
        next.page = state.page ∧ next.isSearching = state.isSearching) := by
  rcases start?_cases starts with
    ⟨active, page, query, _, rfl, _⟩ | ⟨page, rfl, _⟩ | ⟨rfl, _⟩ |
      ⟨⟨texts, textFilter, genres, collections, dates, rfl⟩, _⟩
  · exact .inl ⟨rfl, .inl ⟨rfl, rfl⟩⟩
  · exact .inr ⟨rfl, rfl, rfl, rfl, rfl, rfl⟩
  · exact .inl ⟨rfl, .inr ⟨rfl, rfl⟩⟩
  · exact .inr ⟨rfl, rfl, rfl, rfl, rfl, rfl⟩

/-- Calls begin in the generation that they leave behind. -/
theorem start?_generation
    {setup : Setup}
    {state next : State ε}
    {call : Call}
    {calls : List Pending}
    (starts : state.start? setup call = some (next, calls))
    {part : Pending}
    (member : part ∈ calls) :
    part.generation = next.generation := by
  rcases start?_cases starts with
    ⟨active, page, query, _, rfl, rfl⟩ | ⟨page, rfl, rfl⟩ | ⟨rfl, rfl⟩ | ⟨_, rfl⟩
  · cases List.mem_singleton.1 member
    rfl
  · cases List.mem_singleton.1 member
    exact (Pending.afterBegin_pageCall? setup _).2
  · cases member
  · cases member

/-- A call that begins by asking the backend asks the query of the active search. -/
theorem start?_request?
    {setup : Setup}
    {state next : State ε}
    {call : Call}
    {calls : List Pending}
    (starts : state.start? setup call = some (next, calls))
    {part : Pending}
    (member : part ∈ calls)
    {start : Nat}
    {query : Query}
    (asks : part.request? setup = some (start, query)) :
    setup.paging.batchSize ∣ start ∧
      ∃ search, next.search = some search ∧ batchQuery setup search start = .ok query := by
  rcases start?_cases starts with
    ⟨active, page, _, compiles, rfl, rfl⟩ | ⟨page, rfl, rfl⟩ | ⟨rfl, rfl⟩ | ⟨_, rfl⟩
  · cases List.mem_singleton.1 member
    cases asks
    exact ⟨setup.paging.batchSize_dvd_batchStart _, active, rfl, compiles⟩
  · cases List.mem_singleton.1 member
    cases target : (state.pageCall setup page).target with
    | none => simp [PageCall.afterBegin, PageCall.query?, target, Pending.request?] at asks
    | some search =>
        cases compiles : batchQuery setup search
            ((state.pageCall setup page).batchStart setup) with
        | error cause =>
            simp [PageCall.afterBegin, PageCall.query?, target, compiles, Except.map,
              Pending.request?] at asks
        | ok asked =>
            simp only [PageCall.afterBegin, PageCall.query?, target, compiles, Except.map,
              Pending.request?, Option.some.injEq, Prod.mk.injEq] at asks
            obtain ⟨rfl, rfl⟩ := asks
            exact ⟨setup.paging.batchSize_dvd_batchStart _, search, search_of_target target,
              compiles⟩
  · cases member
  · cases member

end State

/-- An answer that a section takes is the answer to what its call has asked. -/
theorem Pending.of_mem_resume_answers [Worded ε]
    {setup : Setup}
    {state : State ε}
    {outcome : Except ε Batch}
    {part : Pending}
    {answer : Answer}
    (member : answer ∈ (part.resume setup state outcome).answers) :
    answer.generation = part.generation ∧ outcome = .ok answer.batch ∧
      ∃ start, part.request? setup = some (start, answer.query) := by
  cases part with
  | searching call =>
      cases outcome with
      | error failure => cases member
      | ok batch =>
          cases List.mem_singleton.1 member
          exact ⟨rfl, rfl, _, rfl⟩
  | fetching call query =>
      cases outcome with
      | error failure => cases member
      | ok batch =>
          cases List.mem_singleton.1 member
          exact ⟨rfl, rfl, _, rfl⟩
  | showing call => cases member
  | settling call failed => cases member

/-- No call and no answer is of a later generation than the session. -/
structure World.GenerationsInOrder (world : World ε) : Prop where
  pending_le : ∀ part ∈ world.pending, part.generation ≤ world.state.generation
  answers_le : ∀ answer ∈ world.answers, answer.generation ≤ world.state.generation

/-- In every world that can be reached the generations are in order. -/
theorem Reachable.generationsInOrder [Worded ε]
    {setup : Setup}
    {world : World ε}
    (reachable : Reachable setup world) :
    world.GenerationsInOrder := by
  induction reachable with
  | initial least greatest =>
      constructor
      · intro part member
        cases member
      · intro answer member
        cases member
  | @start world call state calls reachable starts ordered =>
      have grows : world.state.generation ≤ state.generation := by
        rcases State.start?_frame starts with ⟨opened, _⟩ | ⟨kept, _⟩ <;> omega
      constructor
      · intro part member
        rcases List.mem_append.1 member with older | begun
        · exact Nat.le_trans (ordered.pending_le part older) grows
        · exact Nat.le_of_eq (State.start?_generation starts begun)
      · intro answer member
        exact Nat.le_trans (ordered.answers_le answer member) grows
  | @resume world earlier later part outcome reachable underWay ordered =>
      have generation_eq := (Pending.resume_frame setup world.state outcome part).1
      have part_le := ordered.pending_le part (by simp [underWay])
      constructor
      · intro rest remains
        rw [World.resumed_state, generation_eq]
        rcases World.of_mem_resumed_pending underWay remains with before | here
        · exact ordered.pending_le rest before
        · rw [(Pending.of_mem_resume_pending here).1]
          exact part_le
      · intro answer member
        rw [World.resumed_state, generation_eq]
        rcases List.mem_append.1 member with before | taken
        · exact ordered.answers_le answer before
        · rw [(Pending.of_mem_resume_answers taken).1]
          exact part_le

/-- The calls that wait for the backend have asked for whole batches, and those of the
current generation have asked the query of the active search. -/
def World.AsksActive (setup : Setup) (world : World ε) : Prop :=
  ∀ part ∈ world.pending, ∀ start query, part.request? setup = some (start, query) ->
    setup.paging.batchSize ∣ start ∧
      (part.generation = world.state.generation ->
        ∃ search, world.state.search = some search ∧
          batchQuery setup search start = .ok query)

/-- In every world that can be reached the calls of the current generation ask the
active search. -/
theorem Reachable.asksActive [Worded ε]
    {setup : Setup}
    {world : World ε}
    (reachable : Reachable setup world) :
    world.AsksActive setup := by
  induction reachable with
  | initial least greatest =>
      intro part member
      cases member
  | @start world call state calls reachable starts asking =>
      intro part member start query asks
      rcases List.mem_append.1 member with older | begun
      · obtain ⟨aligned, active⟩ := asking part older start query asks
        refine ⟨aligned, fun current => ?_⟩
        rcases State.start?_frame starts with ⟨opened, _⟩ | ⟨kept, search_eq, _⟩
        · have := reachable.generationsInOrder.pending_le part older
          rw [World.begun_state] at current
          omega
        · rw [World.begun_state] at current ⊢
          rw [search_eq]
          exact active (current.trans kept)
      · obtain ⟨aligned, active⟩ := State.start?_request? starts begun asks
        exact ⟨aligned, fun _ => active⟩
  | @resume world earlier later part outcome reachable underWay asking =>
      obtain ⟨generation_eq, _, search_eq⟩ :=
        Pending.resume_frame setup world.state outcome part
      intro rest remains start query asks
      rw [World.resumed_state, generation_eq, search_eq]
      rcases World.of_mem_resumed_pending underWay remains with before | here
      · exact asking rest before start query asks
      · rw [(Pending.of_mem_resume_pending here).2.2] at asks
        cases asks

/-- A call of the current generation that waits for the backend has asked the active
search for a whole batch, and its query begins with the batch. -/
theorem World.AsksActive.offset_eq
    {setup : Setup}
    {world : World ε}
    (asking : world.AsksActive setup)
    {part : Pending}
    (underWay : part ∈ world.pending)
    (current : part.generation = world.state.generation)
    {start : Nat}
    {query : Query}
    (asks : part.request? setup = some (start, query)) :
    query.offset = start ∧ setup.paging.batchSize ∣ start ∧
      ∃ search, world.state.search = some search ∧
        batchQuery setup search start = .ok query := by
  obtain ⟨aligned, active⟩ := asking part underWay start query asks
  obtain ⟨search, active, compiles⟩ := active current
  have wholePages := Nat.dvd_trans setup.paging.pageSize_dvd_batchSize aligned
  exact ⟨batchQuery_offset wholePages compiles, aligned, search, active, compiles⟩

/-- In every world that can be reached an active search compiles. -/
theorem Reachable.search_compiles [Worded ε]
    {setup : Setup}
    {world : World ε}
    (reachable : Reachable setup world)
    {search : Search}
    (active : world.state.search = some search) :
    ∃ base, batchQuery setup search 0 = .ok base := by
  induction reachable with
  | initial least greatest => cases active
  | start reachable starts inductionHypothesis =>
      rw [World.begun_state] at active
      rcases State.start?_cases starts with
        ⟨_, page, query, compiles, rfl, _⟩ | ⟨page, rfl, _⟩ | ⟨rfl, _⟩ |
          ⟨⟨texts, textFilter, genres, collections, dates, rfl⟩, _⟩
      · cases active
        exact batchQuery_isOk compiles 0
      · exact inductionHypothesis active
      · cases active
      · exact inductionHypothesis active
  | @resume world earlier later part outcome reachable underWay inductionHypothesis =>
      rw [World.resumed_state, (Pending.resume_frame setup world.state outcome part).2.2] at active
      exact inductionHypothesis active

end Session
end Concordance
