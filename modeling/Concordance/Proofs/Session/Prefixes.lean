import Concordance.Proofs.Session.Provenance
import Concordance.Proofs.Session.Sequential

/-!
# The shape of the cache

The cache of a session is sparse, but it has no holes inside a batch: the ranks that are held
in a batch are its first ones, and all of them lie inside the window. A batch may come back
short, a later answer for the same batch may be longer or shorter, and the window may end in the
middle of a batch; none of this leaves a gap, in any schedule.

So the first rank of a page tells whether any rank of the page is held, and the hits of a page
that is shown stand at consecutive ranks from the first one on.
-/

namespace Concordance

namespace Paging

/-- An answer reaches the ranks of its batch that its hits and the window leave. -/
theorem isSome_hitAt?_iff (paging : Paging) (start : Nat) (hits : List Hit) (rank : Nat) :
    (paging.hitAt? start hits rank).isSome = true ↔
      start ≤ rank ∧ rank < start + paging.batchSize ∧ rank < paging.window ∧
        rank - start < hits.length := by
  simp only [Option.isSome_iff_exists, hitAt?_eq_some_iff, exists_and_left]
  simp only [← Option.isSome_iff_exists, isSome_getElem?]

end Paging

namespace Session

/-- The hits at consecutive ranks stand one after the other where the ranks that have a hit come
first. -/
theorem getElem?_filterMap_range'
    (hit? : Nat -> Option Hit)
    {first count : Nat}
    (downward : ∀ rank other,
      first ≤ other -> other ≤ rank -> rank < first + count ->
      (hit? rank).isSome = true -> (hit? other).isSome = true)
    (index : Nat) :
    ((List.range' first count).filterMap hit?)[index]? =
      if index < count then hit? (first + index) else none := by
  induction count generalizing first index with
  | zero => simp
  | succ count inductionHypothesis =>
      have rest : ∀ index, ((List.range' (first + 1) count).filterMap hit?)[index]? =
          if index < count then hit? (first + 1 + index) else none :=
        inductionHypothesis fun rank other reached below inside =>
          downward rank other (by omega) below (by omega)
      rw [List.range'_succ, List.filterMap_cons]
      cases found : hit? first with
      | some hit =>
          cases index with
          | zero => simp [found]
          | succ index =>
              rw [List.getElem?_cons_succ, rest, Nat.add_right_comm first 1 index,
                Nat.add_assoc]
              simp only [Nat.succ_lt_succ_iff]
      | none =>
          have missing : ∀ rank, first ≤ rank -> rank < first + (count + 1) ->
              hit? rank = none := by
            intro rank reached inside
            refine Option.not_isSome_iff_eq_none.1 fun held => ?_
            have := downward rank first (Nat.le_refl _) reached inside held
            rw [found] at this
            cases this
          have nothing : (List.range' (first + 1) count).filterMap hit? = [] := by
            refine List.filterMap_eq_nil_iff.2 fun rank member => ?_
            obtain ⟨reached, inside⟩ := List.mem_range'_1.1 member
            exact missing rank (by omega) (by omega)
          simp only [nothing, List.getElem?_nil]
          split
          · exact (missing _ (by omega) (by omega)).symm
          · rfl

/-- The ranks that a cache holds lie inside the window, and with a rank it holds all ranks
before it in the same batch. -/
structure HoldsPrefixes (paging : Paging) (cache : Cache) : Prop where
  inWindow : ∀ rank, cache.has rank = true -> rank < paging.window
  downward :
    ∀ rank other,
      cache.has rank = true ->
      other ≤ rank ->
      paging.batchStart other = paging.batchStart rank ->
      cache.has other = true

/-- Writing a batch adds the ranks that its answer reaches. -/
theorem has_writeBatch_iff
    (paging : Paging)
    (cache : Cache)
    (start : Nat)
    (hits : List Hit)
    (rank : Nat) :
    (writeBatch paging cache start hits).has rank = true ↔
      (start ≤ rank ∧ rank < start + paging.batchSize ∧ rank < paging.window ∧
        rank - start < hits.length) ∨ cache.has rank = true := by
  rw [Cache.has_eq_isSome, get?_writeBatch, Option.isSome_or, Bool.or_eq_true,
    paging.isSome_hitAt?_iff, Cache.has_eq_isSome]

namespace HoldsPrefixes

variable {paging : Paging} {cache : Cache}

theorem empty (paging : Paging) : HoldsPrefixes paging .empty where
  inWindow rank held := by cases held
  downward rank other held := by cases held

/-- Writing a batch, whatever the answer, leaves no hole. -/
theorem write
    (prefixes : HoldsPrefixes paging cache)
    {start : Nat}
    (aligned : paging.batchSize ∣ start)
    (hits : List Hit) :
    HoldsPrefixes paging (writeBatch paging cache start hits) where
  inWindow rank held := by
    rcases (has_writeBatch_iff ..).1 held with ⟨_, _, inWindow, _⟩ | before
    · exact inWindow
    · exact prefixes.inWindow rank before
  downward rank other held below sameBatch := by
    apply (has_writeBatch_iff ..).2
    rcases (has_writeBatch_iff ..).1 held with ⟨reached, inBatch, inWindow, inHits⟩ | before
    · have batch_eq := paging.batchStart_eq aligned reached inBatch
      have begins := paging.batchStart_le other
      rw [sameBatch, batch_eq] at begins
      exact .inl ⟨begins, by omega, by omega, by omega⟩
    · exact .inr (prefixes.downward rank other before below sameBatch)

/-- The ranks that are held in a batch are its first ones. -/
theorem exists_count
    (prefixes : HoldsPrefixes paging cache)
    {start : Nat}
    (aligned : paging.batchSize ∣ start) :
    ∃ count ≤ paging.batchSize, ∀ rank, start ≤ rank -> rank < start + paging.batchSize ->
      (cache.has rank = true ↔ rank < start + count) := by
  -- Counted by the size of the part of the batch that is looked at.
  have initialPart :
      ∀ size ≤ paging.batchSize, ∃ count ≤ size, ∀ rank,
        start ≤ rank -> rank < start + size ->
          (cache.has rank = true ↔ rank < start + count) := by
    intro size
    induction size with
    | zero => exact fun _ => ⟨0, Nat.le_refl 0, fun rank reached inside => by omega⟩
    | succ size inductionHypothesis =>
        intro fits
        obtain ⟨count, count_le, holds_iff⟩ := inductionHypothesis (by omega)
        by_cases held : cache.has (start + size) = true
        · refine ⟨size + 1, Nat.le_refl _, fun rank reached inside => ?_⟩
          refine iff_of_true ?_ inside
          apply prefixes.downward (start + size) rank held (by omega)
          rw [paging.batchStart_eq aligned reached (by omega),
            paging.batchStart_eq aligned (Nat.le_add_right start size) (by omega)]
        · refine ⟨count, by omega, fun rank reached inside => ?_⟩
          by_cases last : rank = start + size
          · subst last
            exact iff_of_false held (by omega)
          · exact holds_iff rank reached (by omega)
  exact initialPart paging.batchSize (Nat.le_refl _)

/-- With any rank of a page its first rank is held. -/
theorem has_pageStart
    (prefixes : HoldsPrefixes paging cache)
    {page rank : Nat}
    (onPage : rank ∈ paging.pageRanks page)
    (held : cache.has rank = true) :
    cache.has (paging.pageStart page) = true := by
  obtain ⟨reached, inside⟩ := List.mem_range'_1.1 onPage
  exact prefixes.downward rank _ held reached (paging.batchStart_of_page reached inside).symm

/-- The hits of a page stand at consecutive ranks, from the first rank of the page on. -/
theorem getElem?_pageHits
    (prefixes : HoldsPrefixes paging cache)
    (page index : Nat) :
    (pageHits paging cache page)[index]? =
      if index < paging.pageSize then cache.get? (paging.pageStart page + index) else none := by
  rw [pageHits_eq_filterMap]
  refine getElem?_filterMap_range' _ (fun rank other reached below inside held => ?_) index
  rw [← Cache.has_eq_isSome] at held ⊢
  apply prefixes.downward rank other held below
  rw [paging.batchStart_of_page reached (Nat.lt_of_le_of_lt below inside),
    paging.batchStart_of_page (Nat.le_trans reached below) inside]

end HoldsPrefixes

variable {ε : Type}

namespace State

variable {setup : Setup} {state : State ε} {page : Int}

/-- A change to a page whose first rank is held has nothing to ask. -/
theorem query?_pageCall_of_has
    {number : Nat}
    (held : state.cache.has (setup.paging.pageStart number) = true) :
    (state.pageCall setup number).query? setup = .ok none := by
  simp only [PageCall.query?, pageCall, held, if_true]

/-- A page whose first rank is held is shown next. -/
theorem start?_changePage_of_has
    (positive : 1 ≤ page)
    (held : state.cache.has (setup.paging.pageStart page.toNat) = true) :
    state.start? setup (.changePage page) =
      some (state.changingPage, [.showing (state.pageCall setup page.toNat)]) := by
  have begins := (beginPageChange_eq_ok_iff setup state _ page _).2 ⟨positive, rfl, rfl⟩
  simp only [start?, begins, Except.toOption, Option.map_some, PageCall.afterBegin,
    query?_pageCall_of_has held]

/-- A change to a page whose first rank is held is the same with every backend: it asks none. -/
theorem changePage_run_of_has [Worded ε]
    (positive : 1 ≤ page)
    (held : state.cache.has (setup.paging.pageStart page.toNat) = true)
    (execute other : Query -> Alone ε (Except ε Batch)) :
    (changePage setup execute page).run state = (changePage setup other page).run state := by
  have begins := (beginPageChange_eq_ok_iff setup state _ page _).2 ⟨positive, rfl, rfl⟩
  simp [changePage, begins, query?_pageCall_of_has held]

end State

variable [Worded ε]

/-- In every world that can be reached the cache has no holes. -/
theorem Reachable.holdsPrefixes
    {setup : Setup}
    {world : World ε}
    (reachable : Reachable setup world) :
    HoldsPrefixes setup.paging world.state.cache := by
  induction reachable with
  | initial least greatest => exact .empty _
  | @start world call state calls reachable starts prefixes =>
      rw [World.begun_state]
      rcases State.start?_frame starts with
        ⟨_, ⟨_, cache_eq⟩ | ⟨cache_eq, _⟩⟩ | ⟨_, _, cache_eq, _⟩
      · rwa [cache_eq]
      · rw [cache_eq]
        exact .empty _
      · rwa [cache_eq]
  | @resume world earlier later part outcome reachable underWay prefixes =>
      have asking := reachable.asksActive part (by simp [underWay])
      have effect := Pending.resume_effect setup world.state outcome part
      rw [World.resumed_state]
      generalize (part.resume setup world.state outcome).state = next at effect ⊢
      cases effect with
      | searchFailed newest fails => exact .empty _
      | @searchAnswered call batch newest succeeds =>
          exact (HoldsPrefixes.empty _).write (asking _ _ rfl).1 batch.hits
      | @fetched call query batch newest succeeds =>
          exact prefixes.write (asking _ _ rfl).1 batch.hits
      | _ => exact prefixes

/-- What is on display after an event was there before, or nothing is, or it is a page from the
cache. -/
theorem World.next?_displayed_cases
    {setup : Setup}
    {world next : World ε}
    {event : Event ε}
    (happens : world.next? setup event = some next) :
    (next.state.displayed = world.state.displayed ∧ next.state.page = world.state.page) ∨
      next.state.displayed = [] ∨
      next.state.displayed = pageHits setup.paging next.state.cache next.state.page := by
  cases event with
  | start call =>
      obtain ⟨⟨state, calls⟩, starts, rfl⟩ := Option.map_eq_some_iff.1 happens
      rw [World.begun_state]
      rcases State.start?_cases starts with
        ⟨active, page, query, _, rfl, _⟩ | ⟨page, rfl, _⟩ | ⟨rfl, _⟩ |
          ⟨⟨texts, textFilter, genres, collections, dates, rfl⟩, _⟩
      · exact .inl ⟨rfl, rfl⟩
      · exact .inl ⟨rfl, rfl⟩
      · exact .inr (.inl rfl)
      · exact .inl ⟨rfl, rfl⟩
  | resume place outcome =>
      obtain ⟨part, found, rfl⟩ := Option.map_eq_some_iff.1 happens
      rw [World.resumed_state]
      rcases Pending.resume_displayed_cases setup world.state outcome part with
        ⟨displayed_eq, page_eq, _⟩ | displayed_eq | displayed_eq
      · exact .inl ⟨displayed_eq, page_eq⟩
      · exact .inr (.inl displayed_eq)
      · exact .inr (.inr displayed_eq)

/-- The cache has no holes, whatever the schedule and whatever the backend answers. All ranks
that it holds lie inside the window, and in every batch they are the first ones. So with any
rank of a page its first rank is held, and a change to the page shows it next and asks no
backend; and whatever comes on display is a page whose hits stand at consecutive ranks, from the
first rank of the page on. -/
theorem cached_ranks_of_batches_are_prefixes
    {setup : Setup}
    {world : World ε}
    (reachable : Reachable setup world) :
    (∀ rank, world.state.cache.has rank = true -> rank < setup.paging.window) ∧
    (∀ start, setup.paging.batchSize ∣ start ->
      ∃ count ≤ setup.paging.batchSize, ∀ rank,
        start ≤ rank -> rank < start + setup.paging.batchSize ->
          (world.state.cache.has rank = true ↔ rank < start + count)) ∧
    (∀ page : Int, 1 ≤ page ->
      ∀ rank ∈ setup.paging.pageRanks page.toNat, world.state.cache.has rank = true ->
        world.state.cache.has (setup.paging.pageStart page.toNat) = true ∧
        world.state.start? setup (.changePage page) =
          some (world.state.changingPage,
            [.showing (world.state.pageCall setup page.toNat)]) ∧
        ∀ execute other : Query -> Alone ε (Except ε Batch),
          (changePage setup execute page).run world.state =
            (changePage setup other page).run world.state) ∧
    ∀ event next, world.next? setup event = some next ->
      (next.state.displayed = world.state.displayed ∧ next.state.page = world.state.page) ∨
      next.state.displayed = [] ∨
      ∀ index, next.state.displayed[index]? =
        if index < setup.paging.pageSize then
          next.state.cache.get? (setup.paging.pageStart next.state.page + index)
        else none := by
  have prefixes := reachable.holdsPrefixes
  refine ⟨prefixes.inWindow, fun start aligned => prefixes.exists_count aligned, ?_, ?_⟩
  · intro page positive rank onPage held
    have firstHeld := prefixes.has_pageStart onPage held
    exact ⟨firstHeld, State.start?_changePage_of_has positive firstHeld,
      State.changePage_run_of_has positive firstHeld⟩
  · intro event next happens
    rcases World.next?_displayed_cases happens with kept | nothing | fromCache
    · exact .inl kept
    · exact .inr (.inl nothing)
    · refine .inr (.inr fun index => ?_)
      rw [fromCache]
      exact (reachable.next? happens).holdsPrefixes.getElem?_pageHits _ index

/-- A batch of four hits, and another one that the window cuts. -/
def batchesAtWindow : List (Event Backend.GatewayError) :=
  [.start (.search (wordSearch "word") none 1),
    .resume 0 (.ok (hitsAt ["0", "1", "2", "3", "4"])),
    .start (.changePage 5),
    .resume 0 (.ok (hitsAt ["8", "9", "10", "11"])),
    .resume 0 (.ok (hitsAt []))]

/-- Where the window ends inside a batch, the ranks of the batch before it are held, and they
can be shown without asking. -/
theorem cached_ranks_after_batchesAtWindow :
    ∃ world,
      (World.initial 0 2000).run? smallSetup batchesAtWindow = some world ∧
      world.state.cache.ranks = [0, 1, 2, 3, 8, 9] ∧
      (∃ count ≤ 4, ∀ rank, 8 ≤ rank -> rank < 12 ->
        (world.state.cache.has rank = true ↔ rank < 8 + count)) ∧
      world.state.start? smallSetup (.changePage 2) =
        some (world.state.changingPage, [.showing (world.state.pageCall smallSetup 2)]) := by
  have summary :
      ((World.initial 0 2000).run? smallSetup batchesAtWindow).map
          (fun world => (world.state.cache.ranks, world.state.cache.has 3)) =
        some ([0, 1, 2, 3, 8, 9], true) := by
    decide
  obtain ⟨world, runs, equal⟩ := Option.map_eq_some_iff.1 summary
  simp only [Prod.mk.injEq] at equal
  obtain ⟨ranks_eq, held⟩ := equal
  obtain ⟨_, prefixes, pages, _⟩ :=
    cached_ranks_of_batches_are_prefixes ((Reachable.initial 0 2000).run? runs)
  exact ⟨world, runs, ranks_eq, prefixes 8 (by decide),
    (pages 2 (by decide) 3 (by decide) held).2.1⟩

end Session
end Concordance
