import Concordance.Proofs.Session.Provenance

/-!
# Pages that mix two searches

A search becomes active when it begins, but the hits of the search before it stay in the
cache until its answer comes. A page change in between carries the new generation, so
its guards let it show what it finds: the hits that the new search has brought to the
batch of the page, and at the other ranks of the page the hits that are left over.

The main statement says what a page change shows, rank by rank, and that all of it is of
the active search exactly when the page has no stale rank. Only a search that is still
running leaves stale ranks; a schedule in which one page shows the hits of two searches
stands at the end.
-/

namespace Concordance
namespace Session

variable {ε : Type}

namespace World

/-- A hit stands in an answer to a query of the active search. -/
def AnsweredForActive (setup : Setup) (world : World ε) (hit : Hit) : Prop :=
  ∃ search start, world.state.search = some search ∧
    ∃ answer ∈ world.answers,
      batchQuery setup search start = .ok answer.query ∧ hit ∈ answer.batch.hits

/-- A rank is stale when its cached hit is left over and no answer to the active search
has it. -/
def Stale (setup : Setup) (world : World ε) (rank : Nat) : Prop :=
  world.LeftOver setup rank ∧
    ∃ hit, world.state.cache.get? rank = some hit ∧ ¬world.AnsweredForActive setup hit

/-- What the active search brought stands in an answer to one of its queries. -/
theorem BroughtByActive.answeredForActive
    {setup : Setup}
    {world : World ε}
    {rank : Nat}
    {hit : Hit}
    (brought : world.BroughtByActive setup rank hit) :
    world.AnsweredForActive setup hit := by
  obtain ⟨search, active, answer, given, compiles, _, _, stands⟩ := brought.exists_answer
  exact ⟨search, _, active, answer, given, compiles, List.mem_of_getElem? stands⟩

/-- Only while a search runs is a rank stale, and its hit was brought earlier. -/
theorem CacheTraced.of_stale
    {setup : Setup}
    {world : World ε}
    (traced : world.CacheTraced setup)
    {rank : Nat}
    (stale : world.Stale setup rank) :
    world.state.isSearching = true ∧
      ∃ hit, world.state.cache.get? rank = some hit ∧ world.BroughtEarlier setup rank hit := by
  obtain ⟨leftOver, hit, found, _⟩ := stale
  rcases traced rank hit found with brought | ⟨searching, _, brought⟩
  · exact absurd leftOver brought.not_leftOver
  · exact ⟨searching, hit, found, brought⟩

/-- The hit at a rank that is not stale stands in an answer to the active search. -/
theorem CacheTraced.answeredForActive_iff
    {setup : Setup}
    {world : World ε}
    (traced : world.CacheTraced setup)
    {rank : Nat}
    {hit : Hit}
    (found : world.state.cache.get? rank = some hit) :
    world.AnsweredForActive setup hit ↔ ¬world.Stale setup rank := by
  constructor
  · rintro answered ⟨_, other, sameRank, unanswered⟩
    cases found.symm.trans sameRank
    exact unanswered answered
  · intro fresh
    rcases traced rank hit found with brought | ⟨_, leftOver, _⟩
    · exact brought.answeredForActive
    · by_contra unanswered
      exact fresh ⟨leftOver, hit, found, unanswered⟩

end World

/-- What a page change shows in a world that can be reached. Each hit on the page was
brought to its rank by the active search or, while that search runs, is left over from an
earlier one. The whole page is of the active search exactly when none of its ranks is
stale, and outside a running search no rank is. -/
theorem shown_page_is_of_active_search_iff [Worded ε]
    {setup : Setup}
    {world : World ε}
    (reachable : Reachable setup world)
    {call : PageCall}
    (shows : world.state.Shows setup call)
    (outcome : Except ε Batch) :
    ((Pending.showing call).resume setup world.state outcome).state.displayed =
      (setup.paging.pageRanks call.page).filterMap world.state.cache.get? ∧
    (∀ rank hit, world.state.cache.get? rank = some hit ->
      world.BroughtByActive setup rank hit ∨
        (world.state.isSearching = true ∧ world.LeftOver setup rank ∧
          world.BroughtEarlier setup rank hit)) ∧
    ((∀ hit ∈ ((Pending.showing call).resume setup world.state outcome).state.displayed,
        world.AnsweredForActive setup hit) ↔
      ∀ rank ∈ setup.paging.pageRanks call.page, ¬world.Stale setup rank) ∧
    (world.state.isSearching = false -> ∀ rank, ¬world.Stale setup rank) := by
  have traced := reachable.cacheTraced
  have displayed_eq :
      ((Pending.showing call).resume setup world.state outcome).state.displayed =
        (setup.paging.pageRanks call.page).filterMap world.state.cache.get? := by
    rw [← pageHits_eq_filterMap]
    exact congrArg State.displayed (State.showPage_of_shows shows)
  refine ⟨displayed_eq, traced, ?_, ?_⟩
  · rw [displayed_eq]
    constructor
    · intro answered rank onPage stale
      obtain ⟨_, hit, found, _⟩ := traced.of_stale stale
      have shown := List.mem_filterMap.2 ⟨rank, onPage, found⟩
      exact (traced.answeredForActive_iff found).1 (answered hit shown) stale
    · intro fresh hit shown
      obtain ⟨rank, onPage, found⟩ := List.mem_filterMap.1 shown
      exact (traced.answeredForActive_iff found).2 (fresh rank onPage)
  · intro rests rank stale
    have searching := (traced.of_stale stale).1
    rw [rests] at searching
    cases searching

/-- Where no search runs, a page change shows hits of the active search only, also after a
late answer to another one. -/
theorem page_after_lateAnswer_is_of_active_search :
    ∃ world call,
      (World.initial 0 2000).run? smallSetup (lateAnswer.take 5) = some world ∧
      world.state.Shows smallSetup call ∧
      ∀ outcome hit,
        hit ∈ ((Pending.showing call).resume smallSetup world.state outcome).state.displayed ->
        world.AnsweredForActive smallSetup hit := by
  have summary :
      ((World.initial 0 2000).run? smallSetup (lateAnswer.take 5)).map
          (fun world =>
            (world.state.isSearching, world.state.generation, world.state.pageRequest,
              (pageHits smallSetup.paging world.state.cache 2).map Hit.uri)) =
        some (false, 2, 3, ["new2"]) := by
    decide
  obtain ⟨world, runs, equal⟩ := Option.map_eq_some_iff.1 summary
  simp only [Prod.mk.injEq] at equal
  obtain ⟨rests, generation_eq, request_eq, uris⟩ := equal
  have reachable := (Reachable.initial 0 2000).run? runs
  have shows : world.state.Shows smallSetup ⟨2, 3, 2, none⟩ := by
    refine ⟨generation_eq.symm, request_eq.symm, fun empty => ?_⟩
    rw [empty] at uris
    cases uris
  refine ⟨world, _, runs, shows, fun outcome hit shown => ?_⟩
  obtain ⟨_, _, answered_iff, fresh⟩ :=
    shown_page_is_of_active_search_iff reachable shows outcome
  exact answered_iff.2 (fun rank _ => fresh rests rank) hit shown

/-- A search that is answered, a second one that is not, and meanwhile two page changes: one
fetches a batch with a single hit, the other is about to show the page of that hit. -/
def mixingCalls : List (Event Backend.GatewayError) :=
  [.start (.search (wordSearch "old") none 1),
    .resume 0 (.ok (hitsAt ["old0", "old1"])),
    .start (.search (wordSearch "new") none 1),
    .start (.changePage 2),
    .resume 1 (.ok (hitsAt ["new0"])),
    .resume 1 (.ok (hitsAt [])),
    .resume 1 (.ok (hitsAt [])),
    .start (.changePage 1)]

/-- A page change can show the hits of two searches on one page: the second hit stands in
no answer to the search that is active. -/
theorem mixingCalls_show_two_searches :
    ∃ world call,
      (World.initial 0 2000).run? smallSetup mixingCalls = some world ∧
      .showing call ∈ world.pending ∧
      world.state.Shows smallSetup call ∧
      world.state.search = some (wordSearch "new") ∧
      ∀ outcome,
        ((Pending.showing call).resume smallSetup world.state outcome).state.displayed.map
          Hit.uri = ["new0", "old1"] ∧
        ∀ hit,
          hit ∈ ((Pending.showing call).resume smallSetup world.state outcome).state.displayed ->
          hit.uri = "old1" ->
          ¬world.AnsweredForActive smallSetup hit := by
  have summary :
      ((World.initial 0 2000).run? smallSetup mixingCalls).map
          (fun world =>
            (world.state.search,
              world.pending.filterMap (fun
                | .showing call => some (call.generation, call.request, call.page)
                | _ => none),
              (world.state.generation, world.state.pageRequest),
              (pageHits smallSetup.paging world.state.cache 1).map Hit.uri,
              world.answers.map fun answer =>
                (decide ((batchQuery smallSetup (wordSearch "new") 0).toOption.map
                    SearchRequest.must = some answer.query.must),
                  answer.batch.hits.map Hit.uri))) =
        some (some (wordSearch "new"), [(2, 4, 1)], (2, 4), ["new0", "old1"],
          [(false, ["old0", "old1"]), (true, ["new0"])]) := by
    rfl
  obtain ⟨world, runs, equal⟩ := Option.map_eq_some_iff.1 summary
  simp only [Prod.mk.injEq] at equal
  obtain ⟨active_eq, showing_eq, ⟨generation_eq, request_eq⟩, uris, answers_eq⟩ := equal
  obtain ⟨part, underWay, part_eq⟩ :=
    List.mem_filterMap.1 (showing_eq ▸ List.mem_singleton_self (2, 4, 1))
  cases part with
  | searching call => cases part_eq
  | fetching call query => cases part_eq
  | settling call failed => cases part_eq
  | showing call =>
      simp only [Option.some.injEq, Prod.mk.injEq] at part_eq
      obtain ⟨callGeneration_eq, callRequest_eq, page_eq⟩ := part_eq
      have shows : world.state.Shows smallSetup call := by
        refine ⟨by omega, by omega, fun empty => ?_⟩
        rw [← page_eq, empty] at uris
        cases uris
      refine ⟨world, call, runs, underWay, shows, active_eq, fun outcome => ⟨?_, ?_⟩⟩
      · simp only [Pending.resume, State.showPage_of_shows shows, State.pageShown]
        rw [page_eq, uris]
      · rintro hit _ uri_eq ⟨search, start, active, answer, given, compiles, member⟩
        cases active_eq.symm.trans active
        have listed : "old1" ∈ answer.batch.hits.map Hit.uri :=
          uri_eq ▸ List.mem_map_of_mem member
        obtain ⟨firstQuery, firstCompiles⟩ := batchQuery_isOk compiles 0
        have sameClauses :
            (batchQuery smallSetup (wordSearch "new") 0).toOption.map SearchRequest.must =
              some answer.query.must := by
          simp [firstCompiles, Except.toOption, batchQuery_must_eq firstCompiles compiles]
        have known := List.mem_map_of_mem (f := fun answer =>
          (decide ((batchQuery smallSetup (wordSearch "new") 0).toOption.map
              SearchRequest.must = some answer.query.must),
            answer.batch.hits.map Hit.uri)) given
        rw [answers_eq] at known
        simp only [sameClauses, List.mem_cons, Prod.mk.injEq, decide_true,
          Bool.true_eq_false, false_and, true_and, List.not_mem_nil, or_false, false_or] at known
        rw [known] at listed
        exact absurd listed (by decide)

end Session
end Concordance
