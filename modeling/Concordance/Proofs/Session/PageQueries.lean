import Concordance.Backend.Gateway
import Concordance.Proofs.Session.Sequential
import Mathlib.Logic.ExistsUnique

/-!
# The query for a page

The query for a page is compiled by a detour: the first rank of its batch is divided into the
number of a page, and the compiler multiplies this number back into a rank. Nothing is lost, since
a batch is a whole number of pages. The query asks for one whole batch, the only one in which the
page lies.

A search and a page change work with the first rank of the batch and not with that of the query.
As the two agree, the answer is written at the very ranks that the query has asked for, whatever
happens to the session while the backend is asked.
-/

namespace Concordance

/-- Whether a search compiles, for some page and sizes. -/
def Query.Compiles (layout : Layout) (search : Search) : Prop :=
  ∃ page batchSize pageSize query, compile layout search page batchSize pageSize = .ok query

namespace Paging

/-- The ranks of a batch, in order; batches are counted from zero. -/
def batchRanks (paging : Paging) (number : Nat) : List Nat :=
  List.range' (number * paging.batchSize) paging.batchSize

/-- What the query for a page asks for: a whole batch, the last one that begins no later than the
page, and with it the whole page. -/
structure IsBatchOf (paging : Paging) (page : Int) (query : Query) : Prop where
  size_eq : query.size = paging.batchSize
  aligned : (paging.batchSize : Int) ∣ query.offset
  begins : query.offset ≤ (page - 1) * paging.pageSize
  greatest : ∀ rank : Int,
    (paging.batchSize : Int) ∣ rank -> rank ≤ (page - 1) * paging.pageSize -> rank ≤ query.offset
  ends : page * paging.pageSize ≤ query.offset + query.size

/-- A rank is in a batch when the batch of the rank begins as that batch does. -/
theorem mem_batchRanks_iff (paging : Paging) (number rank : Nat) :
    rank ∈ paging.batchRanks number ↔ paging.batchStart rank = number * paging.batchSize := by
  rw [batchRanks, List.mem_range'_1]
  constructor
  · rintro ⟨reached, inside⟩
    exact paging.batchStart_eq (Nat.dvd_mul_left _ _) reached inside
  · intro start_eq
    rw [← start_eq]
    exact ⟨paging.batchStart_le rank, paging.lt_batchStart_add rank⟩

/-- A page lies in the batch of its first rank. -/
theorem pageRanks_subset_batchRanks_iff (paging : Paging) (page number : Nat) :
    paging.pageRanks page ⊆ paging.batchRanks number ↔
      paging.batchStart (paging.pageStart page) = number * paging.batchSize := by
  constructor
  · intro inside
    have first : paging.pageStart page ∈ paging.pageRanks page :=
      List.mem_range'_1.2 ⟨Nat.le_refl _, Nat.lt_add_of_pos_right paging.pageSize_pos⟩
    exact (paging.mem_batchRanks_iff number _).1 (inside first)
  · intro start_eq rank member
    obtain ⟨reached, inside⟩ := List.mem_range'_1.1 member
    rw [mem_batchRanks_iff, paging.batchStart_of_page reached inside, start_eq]

/-- Every page lies in exactly one batch. -/
theorem existsUnique_batch_of_page (paging : Paging) (page : Nat) :
    ∃! number, paging.pageRanks page ⊆ paging.batchRanks number := by
  refine ⟨paging.pageStart page / paging.batchSize,
    (paging.pageRanks_subset_batchRanks_iff page _).2 rfl, fun number inside => ?_⟩
  have start_eq := (paging.pageRanks_subset_batchRanks_iff page number).1 inside
  exact Nat.eq_of_mul_eq_mul_right paging.batchSize_pos start_eq.symm

/-- The last rank of a page is in the batch of its first one. -/
theorem pageStart_add_le (paging : Paging) (page : Nat) :
    paging.pageStart page + paging.pageSize ≤
      paging.batchStart (paging.pageStart page) + paging.batchSize := by
  have positive := paging.pageSize_pos
  have last :
      paging.batchStart (paging.pageStart page + paging.pageSize - 1) =
        paging.batchStart (paging.pageStart page) :=
    paging.batchStart_of_page (by omega) (by omega)
  have inside := paging.lt_batchStart_add (paging.pageStart page + paging.pageSize - 1)
  rw [last] at inside
  omega

/-- The first rank of a page, as the compiler counts it. -/
theorem natCast_pageStart (paging : Paging) {page : Int} (positive : 1 ≤ page) :
    (paging.pageStart page.toNat : Int) = (page - 1) * paging.pageSize := by
  have before : ((page.toNat - 1 : Nat) : Int) = page - 1 := by omega
  rw [pageStart, Int.natCast_mul, before]

/-- A request for the batch that begins before a page is the one for the batch of the page. -/
theorem isBatchOf_of_offset_eq
    (paging : Paging)
    {page : Int}
    {query : Query}
    (positive : 1 ≤ page)
    (offset_eq : query.offset = paging.batchStart (paging.pageStart page.toNat))
    (size_eq : query.size = paging.batchSize) :
    paging.IsBatchOf page query := by
  have start_eq := paging.natCast_pageStart positive
  have aligned := paging.batchSize_dvd_batchStart (paging.pageStart page.toNat)
  have begins := paging.batchStart_le (paging.pageStart page.toNat)
  have follows := paging.lt_batchStart_add (paging.pageStart page.toNat)
  have ends := paging.pageStart_add_le page.toNat
  constructor
  case size_eq => exact size_eq
  case aligned =>
    rw [offset_eq]
    exact Int.natCast_dvd_natCast.2 aligned
  case begins => omega
  case greatest =>
    intro rank rankAligned reached
    by_contra later
    have apart := Int.le_of_dvd (by omega)
      (Int.dvd_sub rankAligned (Int.natCast_dvd_natCast.2 aligned))
    omega
  case ends =>
    have page_eq : page * paging.pageSize = (page - 1) * paging.pageSize + paging.pageSize := by
      rw [Int.sub_mul, Int.one_mul, Int.sub_add_cancel]
    omega

end Paging

namespace Session

/-- The hit that an answer has for a rank. Its query has asked for the ranks from its offset on;
ranks at or beyond the window are never kept. -/
def answerAt? (window : Nat) (query : Query) (hits : List Hit) (rank : Nat) : Option Hit :=
  if query.offset ≤ rank ∧ rank < query.offset + query.size ∧ rank < window then
    hits[(rank - query.offset).toNat]?
  else none

/-- Whether a cache has an answer at the ranks that its query has asked for, and at all other
ranks what was there before. -/
def HoldsAnswer
    (window : Nat)
    (query : Query)
    (hits : List Hit)
    (before after : Cache) : Prop :=
  ∀ rank, after.get? rank = (answerAt? window query hits rank).or (before.get? rank)

/-- A query for a batch asks for the ranks at which its answer is written. -/
theorem hitAt?_eq_answerAt?
    (paging : Paging)
    {start : Nat}
    {query : Query}
    (offset_eq : query.offset = start)
    (size_eq : query.size = paging.batchSize)
    (hits : List Hit)
    (rank : Nat) :
    paging.hitAt? start hits rank = answerAt? paging.window query hits rank := by
  have place_eq : ((rank : Int) - query.offset).toNat = rank - start := by omega
  ext hit
  rw [paging.hitAt?_eq_some_iff, answerAt?, place_eq]
  constructor
  · rintro ⟨reached, inBatch, inWindow, found⟩
    rw [if_pos (by omega), found]
  · intro found
    split at found
    next asked => exact ⟨by omega, by omega, by omega, found⟩
    next => cases found

section PageQuery

variable {setup : Setup} {search : Search} {page other : Int} {query otherQuery : Query}

/-- Every page of a search that compiles has a query. -/
theorem exists_pageQuery_eq_ok
    (setup : Setup)
    (compiles : Query.Compiles setup.layout search)
    (positive : 1 ≤ page) :
    ∃ query, pageQuery setup search page = .ok query := by
  obtain ⟨_, _, _, _, compiled⟩ := compiles
  obtain ⟨_, _, _, parts, question, nonempty, _⟩ := (Query.compile_eq_ok_iff ..).1 compiled
  exact ⟨_, pageQuery_eq_ok_iff.2 ⟨positive, (Query.compile_eq_ok_iff ..).2
    ⟨Int.ofNat_le.2 (Nat.le_add_left 1 _), Int.natCast_pos.2 setup.paging.batchSize_pos,
      Int.natCast_pos.2 setup.paging.pageSize_pos, parts, question, nonempty, rfl⟩⟩⟩

theorem pageQuery_offset (asks : pageQuery setup search page = .ok query) :
    query.offset = setup.paging.batchStart (setup.paging.pageStart page.toNat) :=
  batchQuery_offset (setup.paging.pageSize_dvd_batchStart _) (pageQuery_eq_ok_iff.1 asks).2

theorem pageQuery_size (asks : pageQuery setup search page = .ok query) :
    query.size = setup.paging.batchSize :=
  batchQuery_size (pageQuery_eq_ok_iff.1 asks).2

/-- The query for a page asks for the batch of the page. -/
theorem isBatchOf_pageQuery (asks : pageQuery setup search page = .ok query) :
    setup.paging.IsBatchOf page query :=
  setup.paging.isBatchOf_of_offset_eq (pageQuery_eq_ok_iff.1 asks).1 (pageQuery_offset asks)
    (pageQuery_size asks)

/-- Two pages ask from the same rank on when they lie in one batch. -/
theorem pageQuery_offset_eq_iff
    (asks : pageQuery setup search page = .ok query)
    (asksOther : pageQuery setup search other = .ok otherQuery) :
    query.offset = otherQuery.offset ↔
      ∃ number,
        setup.paging.pageRanks page.toNat ⊆ setup.paging.batchRanks number ∧
        setup.paging.pageRanks other.toNat ⊆ setup.paging.batchRanks number := by
  simp only [pageQuery_offset asks, pageQuery_offset asksOther, Int.natCast_inj,
    Paging.pageRanks_subset_batchRanks_iff]
  constructor
  · intro same
    exact ⟨_, rfl, same.symm⟩
  · rintro ⟨number, start_eq, otherStart_eq⟩
    rw [start_eq, otherStart_eq]

end PageQuery

section Writing

variable {ε : Type}

@[simp] theorem cache_showPage (setup : Setup) (state : State ε) (call : PageCall) :
    (state.showPage setup call).1.cache = state.cache := by
  by_cases shows : state.Shows setup call
  · rw [State.showPage_of_shows shows]
    rfl
  · rw [State.showPage_of_not_shows shows]

@[simp] theorem cache_settlePage (state : State ε) (call : PageCall) (failed : Bool) :
    (state.settlePage call failed).cache = state.cache := by
  unfold State.settlePage
  split <;> rfl

variable [Worded ε] {setup : Setup} {state later : State ε} {query : Query} {batch : Batch}
  {page : Int} {execute : Query -> Alone ε (Except ε Batch)}

/-- A search takes its answer in the state that the session has come to meanwhile. -/
theorem runSearch_run
    {search : Search}
    {texts : Option Value}
    {searching : State ε}
    {call : SearchCall}
    {answer : Except ε Batch}
    (begins : state.beginSearch setup search texts page = .ok (searching, call))
    (answers : ((execute call.query).run searching).run = (answer, later)) :
    ((runSearch setup execute search texts page).run state).run.2 =
      (later.finishSearch setup call answer).1 := by
  have outcome_eq : (execute call.query).run searching = pure (answer, later) := answers
  simp [runSearch, begins, outcome_eq]

/-- A search writes its answer at the ranks that the query for its page has asked for, and holds
nothing else. -/
theorem holdsAnswer_runSearch
    {search active : Search}
    {texts : Option Value}
    (restricted : restrict search texts = .ok active)
    (asks : pageQuery setup active page = .ok query)
    (answers : ((execute query).run (state.searchingFor active)).run = (.ok batch, later))
    (newest : later.generation = state.generation + 1) :
    HoldsAnswer setup.paging.window query batch.hits .empty
      ((runSearch setup execute search texts page).run state).run.2.cache := by
  intro rank
  obtain ⟨positive, compiles⟩ := pageQuery_eq_ok_iff.1 asks
  have begins :=
    (State.beginSearch_eq_ok_iff (ε := ε) setup state _ search texts page _).2
      ⟨positive, active, query, restricted, compiles, rfl, rfl⟩
  rw [runSearch_run begins answers, State.finishSearch_ok newest.symm, State.get?_searchAnswered,
    ← hitAt?_eq_answerAt? setup.paging (pageQuery_offset asks) (pageQuery_size asks),
    Cache.get?_empty, Option.or_none]
  rfl

/-- A page change stores its answer in the state that the session has come to meanwhile. -/
theorem cache_changePage_run
    {call : PageCall}
    {changing : State ε}
    (begins : state.beginPageChange setup page = .ok (changing, call))
    (asks : call.query? setup = .ok (some query))
    (answers : ((execute query).run changing).run = (.ok batch, later))
    (newest : call.generation = later.generation) :
    ((changePage setup execute page).run state).run.2.cache =
      (later.batchStored setup call batch).cache := by
  have outcome_eq : (execute query).run changing = pure (.ok batch, later) := answers
  have stores :
      (later.receivePage setup call (.ok batch)).1 =
        (later.batchStored setup call batch, .stored) :=
    State.receivePage_ok newest batch
  simp [changePage, begins, asks, outcome_eq, stores, finishPageChange]

/-- A page change of a page that is not in the cache writes its answer at the ranks that the query
for the page has asked for, and leaves all other ranks alone. -/
theorem holdsAnswer_changePage
    {active : Search}
    (isActive : state.search = some active)
    (missing : state.cache.has (setup.paging.pageStart page.toNat) = false)
    (asks : pageQuery setup active page = .ok query)
    (answers : ((execute query).run state.changingPage).run = (.ok batch, later))
    (newest : later.generation = state.generation) :
    HoldsAnswer setup.paging.window query batch.hits later.cache
      ((changePage setup execute page).run state).run.2.cache := by
  intro rank
  obtain ⟨positive, compiles⟩ := pageQuery_eq_ok_iff.1 asks
  have begins := (State.beginPageChange_eq_ok_iff (ε := ε) setup state _ page _).2
    ⟨positive, rfl, rfl⟩
  have asksBatch : (state.pageCall setup page.toNat).query? setup = .ok (some query) := by
    simp [PageCall.query?, State.pageCall, missing, isActive, PageCall.batchStart, compiles,
      Except.map]
  rw [cache_changePage_run begins asksBatch answers newest.symm, State.get?_batchStored,
    ← hitAt?_eq_answerAt? setup.paging (pageQuery_offset asks) (pageQuery_size asks)]
  rfl

end Writing

/-- The queries for the pages of a search that compiles. Every page lies in one batch, and its
query asks for this batch: for as many ranks as a batch has, from the greatest multiple of that
number on that is no greater than the first rank of the page. Two pages ask from the same rank on
exactly when they lie in the same batch. A search and a page change write an answer of the backend
that is still current at the very ranks that the query of their page has asked for: the search
holds nothing else then, and the page change leaves all other ranks alone. -/
theorem every_page_lies_in_the_batch_asked_for
    {ε : Type}
    [Worded ε]
    (setup : Setup)
    (search : Search)
    (compiles : Query.Compiles setup.layout search) :
    (∀ page, 1 ≤ page ->
      (∃! number, setup.paging.pageRanks page.toNat ⊆ setup.paging.batchRanks number) ∧
        ∃ query, pageQuery setup search page = .ok query ∧ setup.paging.IsBatchOf page query) ∧
      (∀ page other query otherQuery,
        pageQuery setup search page = .ok query ->
        pageQuery setup search other = .ok otherQuery ->
          (query.offset = otherQuery.offset ↔
            ∃ number,
              setup.paging.pageRanks page.toNat ⊆ setup.paging.batchRanks number ∧
              setup.paging.pageRanks other.toNat ⊆ setup.paging.batchRanks number)) ∧
      (∀ texts active page query,
        restrict search texts = .ok active ->
        pageQuery setup active page = .ok query ->
        ∀ (execute : Query -> Alone ε (Except ε Batch)) (state later : State ε) (batch : Batch),
          ((execute query).run (state.searchingFor active)).run = (.ok batch, later) ->
          later.generation = state.generation + 1 ->
            HoldsAnswer setup.paging.window query batch.hits .empty
              ((runSearch setup execute search texts page).run state).run.2.cache) ∧
      ∀ page query,
        pageQuery setup search page = .ok query ->
        ∀ (execute : Query -> Alone ε (Except ε Batch)) (state later : State ε) (batch : Batch),
          state.search = some search ->
          state.cache.has (setup.paging.pageStart page.toNat) = false ->
          ((execute query).run state.changingPage).run = (.ok batch, later) ->
          later.generation = state.generation ->
            HoldsAnswer setup.paging.window query batch.hits later.cache
              ((changePage setup execute page).run state).run.2.cache := by
  refine ⟨fun page positive => ⟨setup.paging.existsUnique_batch_of_page page.toNat, ?_⟩,
    ?_, ?_, ?_⟩
  · obtain ⟨query, asks⟩ := exists_pageQuery_eq_ok setup compiles positive
    exact ⟨query, asks, isBatchOf_pageQuery asks⟩
  · exact fun _ _ _ _ asks asksOther => pageQuery_offset_eq_iff asks asksOther
  · exact fun _ _ _ _ restricted asks _ _ _ _ answers newest =>
      holdsAnswer_runSearch restricted asks answers newest
  · exact fun _ _ asks _ _ _ _ isActive missing answers newest =>
      holdsAnswer_changePage isActive missing asks answers newest

/-- A backend with seven hits that leaves the session alone. -/
def sevenHits (query : Query) :
    Alone Backend.GatewayError (Except Backend.GatewayError Batch) :=
  pure (.ok (rankedAnswers 7 query))

/-- With two hits on a page and four in a batch, the fourth page lies in the batch from four on,
and this is where a search and a page change write its hits. -/
theorem fourthPage_lies_in_the_batch_asked_for :
    Query.Compiles smallSetup.layout (wordSearch "word") ∧
      ∃ query, pageQuery smallSetup (wordSearch "word") 4 = .ok query ∧
        query.offset = 4 ∧ query.size = 4 ∧
        HoldsAnswer 10 query (rankedAnswers 7 query).hits .empty
          ((runSearch smallSetup sevenHits (wordSearch "word") none 4).run
            (.initial 0 2000)).run.2.cache ∧
        HoldsAnswer 10 query (rankedAnswers 7 query).hits .empty
          ((changePage smallSetup sevenHits 4).run
            ((State.initial 0 2000).searchingFor (wordSearch "word"))).run.2.cache := by
  obtain ⟨base, baseCompiles⟩ := wordSearch_compiles smallSetup 0
  have compiles : Query.Compiles smallSetup.layout (wordSearch "word") :=
    ⟨_, _, _, base, baseCompiles⟩
  obtain ⟨pages, _, searches, changes⟩ :=
    every_page_lies_in_the_batch_asked_for (ε := Backend.GatewayError) smallSetup
      (wordSearch "word") compiles
  obtain ⟨_, query, asks, size_eq, aligned, begins, _, ends⟩ := pages 4 (by decide)
  have size : query.size = 4 := size_eq
  have offset : query.offset = 4 := by
    simp only [smallSetup] at aligned begins ends
    omega
  exact ⟨compiles, query, asks, offset, size,
    searches none _ 4 query rfl asks sevenHits _ _ _ rfl rfl,
    changes 4 query asks sevenHits _ _ _ rfl rfl rfl rfl⟩

end Session
end Concordance
