import Concordance.Backend.Gateway
import Concordance.Proofs.Session.Generations

/-!
# Where results come from

Every hit that a session holds was brought by an answer to the query of some search.
While no search runs, that is the active search: the cache holds at each rank what an
answer of the current generation brought to it, and the page on display is made of
such hits. No interleaving of calls lets a result of an older search survive.

While a search runs, the cache of the search before it is still there, under the new
generation. The invariant keeps these left-overs apart, rank by rank.
-/

namespace Concordance
namespace Session

/-- The hit that an answer brings to a rank, where its query asked for the batch of the
rank. -/
def Answer.hitAt? (paging : Paging) (answer : Answer) (rank : Nat) : Option Hit :=
  if answer.query.offset = paging.batchStart rank then
    paging.hitAt? (paging.batchStart rank) answer.batch.hits rank
  else none

/-- An answer to the query for a batch brings its hits to the ranks of the batch. -/
theorem Answer.hitAt?_eq_of_offset
    {paging : Paging}
    {answer : Answer}
    {start rank : Nat}
    {hit : Hit}
    (aligned : paging.batchSize ∣ start)
    (offset_eq : answer.query.offset = start)
    (found : paging.hitAt? start answer.batch.hits rank = some hit) :
    paging.batchStart rank = start ∧ answer.hitAt? paging rank = some hit := by
  obtain ⟨reached, inBatch, _⟩ := (paging.hitAt?_eq_some_iff ..).1 found
  have start_eq := paging.batchStart_eq aligned reached inBatch
  exact ⟨start_eq, by rw [hitAt?, start_eq, if_pos offset_eq, found]⟩

/-- An answer to the query for a batch brings nothing else. -/
theorem Answer.hitAt?_eq_none_of_offset
    {paging : Paging}
    {answer : Answer}
    {start rank : Nat}
    (offset_eq : answer.query.offset = start)
    (missing : paging.hitAt? start answer.batch.hits rank = none) :
    answer.hitAt? paging rank = none := by
  rw [hitAt?]
  split
  · rename_i asked
    have start_eq : paging.batchStart rank = start := by omega
    rw [start_eq, missing]
  · rfl

variable {ε : Type}

namespace World

/-- A hit was brought to a rank by an answer of the current generation to the query of
the active search. -/
def BroughtByActive (setup : Setup) (world : World ε) (rank : Nat) (hit : Hit) : Prop :=
  ∃ search answer,
    world.state.search = some search ∧
    answer ∈ world.answers ∧
    answer.generation = world.state.generation ∧
    batchQuery setup search (setup.paging.batchStart rank) = .ok answer.query ∧
    answer.hitAt? setup.paging rank = some hit

/-- A hit was brought to a rank by an answer of an earlier generation. -/
def BroughtEarlier (setup : Setup) (world : World ε) (rank : Nat) (hit : Hit) : Prop :=
  ∃ answer ∈ world.answers,
    answer.generation < world.state.generation ∧
    answer.hitAt? setup.paging rank = some hit

/-- No answer of the current generation has brought a hit to a rank. What is cached there
is left over from before the newest search began. -/
def LeftOver (setup : Setup) (world : World ε) (rank : Nat) : Prop :=
  ∀ answer ∈ world.answers,
    answer.generation = world.state.generation -> answer.hitAt? setup.paging rank = none

/-- Answers stay given. -/
theorem BroughtByActive.mono
    {setup : Setup}
    {world next : World ε}
    {rank : Nat}
    {hit : Hit}
    (brought : world.BroughtByActive setup rank hit)
    (generation_eq : next.state.generation = world.state.generation)
    (search_eq : next.state.search = world.state.search)
    (grows : ∀ answer ∈ world.answers, answer ∈ next.answers) :
    next.BroughtByActive setup rank hit := by
  obtain ⟨search, answer, active, given, current, asked, found⟩ := brought
  exact ⟨search, answer, search_eq.trans active, grows answer given,
    current.trans generation_eq.symm, asked, found⟩

/-- Earlier answers stay given and earlier. -/
theorem BroughtEarlier.mono
    {setup : Setup}
    {world next : World ε}
    {rank : Nat}
    {hit : Hit}
    (brought : world.BroughtEarlier setup rank hit)
    (generation_le : world.state.generation ≤ next.state.generation)
    (grows : ∀ answer ∈ world.answers, answer ∈ next.answers) :
    next.BroughtEarlier setup rank hit := by
  obtain ⟨answer, given, earlier, found⟩ := brought
  exact ⟨answer, grows answer given, by omega, found⟩

/-- What the active search brought was brought earlier once a new generation opens. -/
theorem BroughtByActive.earlier
    {setup : Setup}
    {world next : World ε}
    {rank : Nat}
    {hit : Hit}
    (brought : world.BroughtByActive setup rank hit)
    (opened : world.state.generation < next.state.generation)
    (grows : ∀ answer ∈ world.answers, answer ∈ next.answers) :
    next.BroughtEarlier setup rank hit := by
  obtain ⟨_, answer, _, given, current, _, found⟩ := brought
  exact ⟨answer, grows answer given, by omega, found⟩

/-- What the active search brought stands in an answer, at the place of its rank in the
batch. -/
theorem BroughtByActive.exists_answer
    {setup : Setup}
    {world : World ε}
    {rank : Nat}
    {hit : Hit}
    (brought : world.BroughtByActive setup rank hit) :
    ∃ search, world.state.search = some search ∧ ∃ answer ∈ world.answers,
      batchQuery setup search (setup.paging.batchStart rank) = .ok answer.query ∧
      answer.query.offset = setup.paging.batchStart rank ∧
      answer.generation = world.state.generation ∧
      answer.batch.hits[rank - setup.paging.batchStart rank]? = some hit := by
  obtain ⟨search, answer, active, given, current, compiles, found⟩ := brought
  rw [Answer.hitAt?] at found
  split at found
  · rename_i asked
    obtain ⟨_, _, _, stands⟩ := (setup.paging.hitAt?_eq_some_iff ..).1 found
    exact ⟨search, active, answer, given, compiles, asked, current, stands⟩
  · cases found

/-- A rank at which the active search brought a hit is not left over. -/
theorem BroughtByActive.not_leftOver
    {setup : Setup}
    {world : World ε}
    {rank : Nat}
    {hit : Hit}
    (brought : world.BroughtByActive setup rank hit) :
    ¬world.LeftOver setup rank := by
  obtain ⟨_, answer, _, given, current, _, found⟩ := brought
  intro leftOver
  rw [leftOver answer given current] at found
  cases found

/-- The cache holds what answers brought: the answers of the current generation, or,
while a search runs and at ranks that its generation has not reached, earlier ones. -/
def CacheTraced (setup : Setup) (world : World ε) : Prop :=
  ∀ rank hit, world.state.cache.get? rank = some hit ->
    world.BroughtByActive setup rank hit ∨
      (world.state.isSearching = true ∧ world.LeftOver setup rank ∧
        world.BroughtEarlier setup rank hit)

/-- While no search runs, the hits on display stand at the ranks of their page, brought
by the active search. -/
def DisplayTraced (setup : Setup) (world : World ε) : Prop :=
  world.state.isSearching = false ->
    ∀ hit ∈ world.state.displayed,
      ∃ rank ∈ setup.paging.pageRanks world.state.page,
        world.BroughtByActive setup rank hit

end World

namespace Pending

variable [Worded ε] {setup : Setup} {state : State ε} {outcome : Except ε Batch} {part : Pending}

/-- A hit in the cache after a section was brought by the answer that the section took,
or it was there before and that answer brought nothing to its rank. -/
theorem resume_get?_cases
    {rank : Nat}
    {hit : Hit}
    (found : (part.resume setup state outcome).state.cache.get? rank = some hit) :
    (∃ answer ∈ (part.resume setup state outcome).answers, ∃ start,
        part.request? setup = some (start, answer.query) ∧
        part.generation = state.generation ∧
        setup.paging.hitAt? start answer.batch.hits rank = some hit) ∨
      (state.cache.get? rank = some hit ∧
        (part.resume setup state outcome).state.isSearching = state.isSearching ∧
        ∀ answer ∈ (part.resume setup state outcome).answers, ∀ start,
          part.request? setup = some (start, answer.query) ->
          part.generation = state.generation ->
          setup.paging.hitAt? start answer.batch.hits rank = none) := by
  have effect := resume_effect setup state outcome part
  generalize (part.resume setup state outcome).state = next at found effect ⊢
  cases effect with
  | late asked superseded =>
      exact .inr ⟨found, rfl, fun _ _ _ _ current => absurd current superseded⟩
  | searchFailed newest fails =>
      rw [State.get?_searchFailed] at found
      cases found
  | @searchAnswered call batch newest succeeds =>
      subst succeeds
      rw [State.get?_searchAnswered] at found
      exact .inl ⟨_, .head _, call.batchStart, rfl, newest, found⟩
  | fetchFailed newest fails =>
      subst fails
      exact .inr ⟨found, rfl, fun _ member => by cases member⟩
  | @fetched call query batch newest succeeds =>
      subst succeeds
      rw [State.get?_batchStored] at found
      cases brings : setup.paging.hitAt? (call.batchStart setup) batch.hits rank with
      | some other =>
          rw [brings, Option.some_or] at found
          exact .inl ⟨_, .head _, call.batchStart setup, rfl, newest, brings.trans found⟩
      | none =>
          rw [brings, Option.none_or] at found
          refine .inr ⟨found, rfl, ?_⟩
          intro answer member start asks _
          cases List.mem_singleton.1 member
          cases asks
          exact brings
  | shown shows => exact .inr ⟨found, rfl, fun _ member => by cases member⟩
  | hidden hidden => exact .inr ⟨found, rfl, fun _ member => by cases member⟩
  | settled newest => exact .inr ⟨found, rfl, fun _ member => by cases member⟩
  | overtaken superseded => exact .inr ⟨found, rfl, fun _ member => by cases member⟩

/-- What is on display after a section was there before, or nothing is, or it is a page
from the cache. -/
theorem resume_displayed_cases
    (setup : Setup)
    (state : State ε)
    (outcome : Except ε Batch)
    (part : Pending) :
    ((part.resume setup state outcome).state.displayed = state.displayed ∧
        (part.resume setup state outcome).state.page = state.page ∧
        (part.resume setup state outcome).state.isSearching = state.isSearching) ∨
      (part.resume setup state outcome).state.displayed = [] ∨
      (part.resume setup state outcome).state.displayed =
        pageHits setup.paging (part.resume setup state outcome).state.cache
          (part.resume setup state outcome).state.page := by
  have effect := resume_effect setup state outcome part
  generalize (part.resume setup state outcome).state = next at effect ⊢
  cases effect with
  | searchFailed newest fails => exact .inr (.inl rfl)
  | searchAnswered newest succeeds => exact .inr (.inr rfl)
  | shown shows => exact .inr (.inr rfl)
  | _ => exact .inl ⟨rfl, rfl, rfl⟩

end Pending

variable [Worded ε]

/-- In every world that can be reached the cache holds what answers brought. A new search
turns what it finds into left-overs; an answer of its generation replaces them. -/
theorem Reachable.cacheTraced
    {setup : Setup}
    {world : World ε}
    (reachable : Reachable setup world) :
    world.CacheTraced setup := by
  induction reachable with
  | initial least greatest =>
      intro rank hit found
      rw [World.initial, State.initial, Cache.get?_empty] at found
      cases found
  | @start world call state calls reachable starts traced =>
      intro rank hit found
      rw [World.begun_state] at found
      rcases State.start?_frame starts with
        ⟨opened, ⟨searching, cache_eq⟩ | ⟨cache_eq, _⟩⟩ |
          ⟨generation_eq, search_eq, cache_eq, _, _, searching_eq⟩
      · rw [cache_eq] at found
        have grows : world.state.generation < state.generation := by omega
        refine .inr ⟨searching, ?_, ?_⟩
        · intro answer given current
          have := reachable.generationsInOrder.answers_le answer given
          rw [World.begun_state] at current
          omega
        · rcases traced rank hit found with brought | ⟨_, _, brought⟩
          · exact brought.earlier grows fun _ given => given
          · exact brought.mono (Nat.le_of_lt grows) fun _ given => given
      · rw [cache_eq, Cache.get?_empty] at found
        cases found
      · rw [cache_eq] at found
        rcases traced rank hit found with brought | ⟨searching, leftOver, brought⟩
        · exact .inl (brought.mono generation_eq search_eq fun _ given => given)
        · refine .inr ⟨searching_eq.trans searching, ?_, ?_⟩
          · intro answer given current
            exact leftOver answer given (current.trans generation_eq)
          · exact brought.mono (Nat.le_of_eq generation_eq.symm) fun _ given => given
  | @resume world earlier later part outcome reachable underWay traced =>
      obtain ⟨generation_eq, _, search_eq⟩ :=
        Pending.resume_frame setup world.state outcome part
      have member : part ∈ world.pending := by simp [underWay]
      have asking := reachable.asksActive
      have grows : ∀ answer ∈ world.answers,
          answer ∈ (world.resumed earlier later
            (part.resume setup world.state outcome)).answers :=
        fun _ given => List.mem_append_left _ given
      intro rank hit found
      rw [World.resumed_state] at found
      rcases Pending.resume_get?_cases found with
        ⟨answer, taken, start, asks, current, brings⟩ | ⟨kept, searching_eq, missing⟩
      · obtain ⟨offset_eq, aligned, search, active, compiles⟩ :=
          asking.offset_eq member current asks
        obtain ⟨start_eq, brought⟩ := Answer.hitAt?_eq_of_offset aligned offset_eq brings
        refine .inl ⟨search, answer, search_eq.trans active,
          List.mem_append_right _ taken, ?_, ?_, brought⟩
        · rw [World.resumed_state, generation_eq, ← current]
          exact (Pending.of_mem_resume_answers taken).1
        · rw [start_eq, compiles]
      · rcases traced rank hit kept with brought | ⟨searching, leftOver, brought⟩
        · exact .inl (brought.mono generation_eq search_eq grows)
        · refine .inr ⟨searching_eq.trans searching, ?_, ?_⟩
          · intro answer given current
            rw [World.resumed_state, generation_eq] at current
            rcases List.mem_append.1 given with before | taken
            · exact leftOver answer before current
            · obtain ⟨part_eq, _, start, asks⟩ := Pending.of_mem_resume_answers taken
              have newest := part_eq.symm.trans current
              obtain ⟨offset_eq, _⟩ := asking.offset_eq member newest asks
              exact Answer.hitAt?_eq_none_of_offset offset_eq
                (missing answer taken start asks newest)
          · exact brought.mono (Nat.le_of_eq generation_eq.symm) grows

/-- In every world that can be reached where no search runs, the page on display is made
of hits that the active search brought. -/
theorem Reachable.displayTraced
    {setup : Setup}
    {world : World ε}
    (reachable : Reachable setup world) :
    world.DisplayTraced setup := by
  induction reachable with
  | initial least greatest =>
      intro _ hit shown
      cases shown
  | @start world call state calls reachable starts traced =>
      intro rests hit shown
      rw [World.begun_state] at rests shown
      rcases State.start?_frame starts with
        ⟨_, ⟨searching, _⟩ | ⟨_, displayed_eq⟩⟩ |
          ⟨generation_eq, search_eq, _, displayed_eq, page_eq, searching_eq⟩
      · rw [searching] at rests
        cases rests
      · rw [displayed_eq] at shown
        cases shown
      · rw [displayed_eq] at shown
        obtain ⟨rank, onPage, brought⟩ := traced (searching_eq.symm.trans rests) hit shown
        refine ⟨rank, ?_, brought.mono generation_eq search_eq fun _ given => given⟩
        rwa [World.begun_state, page_eq]
  | @resume world earlier later part outcome reachable underWay traced =>
      obtain ⟨generation_eq, _, search_eq⟩ :=
        Pending.resume_frame setup world.state outcome part
      have cached := (reachable.resume outcome underWay).cacheTraced
      intro rests hit shown
      rw [World.resumed_state] at rests shown
      rcases Pending.resume_displayed_cases setup world.state outcome part with
        ⟨displayed_eq, page_eq, searching_eq⟩ | displayed_eq | displayed_eq
      · rw [displayed_eq] at shown
        obtain ⟨rank, onPage, brought⟩ := traced (searching_eq.symm.trans rests) hit shown
        refine ⟨rank, ?_, brought.mono generation_eq search_eq
          fun _ given => List.mem_append_left _ given⟩
        rwa [World.resumed_state, page_eq]
      · rw [displayed_eq] at shown
        cases shown
      · rw [displayed_eq, mem_pageHits_iff] at shown
        obtain ⟨rank, onPage, found⟩ := shown
        rcases cached rank hit found with brought | ⟨searching, _⟩
        · exact ⟨rank, onPage, brought⟩
        · rw [World.resumed_state, rests] at searching
          cases searching

/-- While no search runs, every hit that a session holds or shows is of the active search.
The hit in the cache at a rank is the one at that place of an answer to the query of the
active search for the batch of the rank, and so are the hits on display at the ranks of
their page. -/
theorem hits_at_rest_are_of_active_search
    {setup : Setup}
    {world : World ε}
    (reachable : Reachable setup world)
    (rests : world.state.isSearching = false) :
    (∀ rank hit, world.state.cache.get? rank = some hit ->
      ∃ search, world.state.search = some search ∧ ∃ answer ∈ world.answers,
        batchQuery setup search (setup.paging.batchStart rank) = .ok answer.query ∧
        answer.query.offset = setup.paging.batchStart rank ∧
        answer.generation = world.state.generation ∧
        answer.batch.hits[rank - setup.paging.batchStart rank]? = some hit) ∧
    ∀ hit ∈ world.state.displayed, ∃ rank ∈ setup.paging.pageRanks world.state.page,
      ∃ search, world.state.search = some search ∧ ∃ answer ∈ world.answers,
        batchQuery setup search (setup.paging.batchStart rank) = .ok answer.query ∧
        answer.query.offset = setup.paging.batchStart rank ∧
        answer.generation = world.state.generation ∧
        answer.batch.hits[rank - setup.paging.batchStart rank]? = some hit := by
  constructor
  · intro rank hit found
    rcases reachable.cacheTraced rank hit found with brought | ⟨searching, _⟩
    · exact brought.exists_answer
    · rw [rests] at searching
      cases searching
  · intro hit shown
    obtain ⟨rank, onPage, brought⟩ := reachable.displayTraced rests hit shown
    exact ⟨rank, onPage, brought.exists_answer⟩

/-- Two searches that overlap. The first is answered after the second, and then a page of
the second is shown. -/
def lateAnswer : List (Event Backend.GatewayError) :=
  [.start (.search (wordSearch "old") none 1),
    .start (.search (wordSearch "new") none 1),
    .resume 1 (.ok (hitsAt ["new0", "new1", "new2"])),
    .resume 0 (.ok (hitsAt ["old0", "old1", "old2", "old3"])),
    .start (.changePage 2),
    .resume 0 (.ok (hitsAt [])),
    .resume 0 (.ok (hitsAt []))]

/-- A late answer to an older search leaves no trace on the page that is shown after it. -/
theorem hits_at_rest_after_lateAnswer :
    ∃ world,
      (World.initial 0 2000).run? smallSetup lateAnswer = some world ∧
      world.state.isSearching = false ∧
      world.answers.length = 2 ∧
      world.state.displayed.map Hit.uri = ["new2"] ∧
      ∀ hit ∈ world.state.displayed, ∃ answer ∈ world.answers,
        answer.generation = world.state.generation ∧ hit ∈ answer.batch.hits := by
  have summary :
      ((World.initial 0 2000).run? smallSetup lateAnswer).map
          (fun world =>
            (world.state.isSearching, world.answers.length,
              world.state.displayed.map Hit.uri)) =
        some (false, 2, ["new2"]) := by
    decide
  obtain ⟨world, runs, equal⟩ := Option.map_eq_some_iff.1 summary
  simp only [Prod.mk.injEq] at equal
  obtain ⟨rests, given, uris⟩ := equal
  refine ⟨world, runs, rests, given, uris, fun hit shown => ?_⟩
  obtain ⟨_, _, _, _, answer, member, _, _, current, found⟩ :=
    (hits_at_rest_are_of_active_search ((Reachable.initial 0 2000).run? runs) rests).2 hit shown
  exact ⟨answer, member, current, List.mem_of_getElem? found⟩

end Session
end Concordance
