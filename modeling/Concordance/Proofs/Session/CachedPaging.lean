import Concordance.Backend.Gateway
import Concordance.Proofs.Session.Uncached

/-!
# Cached paging is uncached paging

Whole calls on a session, one after another, against a backend that answers by the query
alone or fails. A search replaces the cache by one batch and a page change adds one, so
the cache always holds whole batches of the active search, and a page that is shown is
the page that a session without a cache shows.

A page change moves the display when its batch is in the cache or comes, and the page has
a hit; otherwise the display and its page number stay as they are.
-/

namespace Concordance
namespace Session

variable {ε : Type}

namespace State

/-- Whether the batch of a page is there without a failure: the first rank of the page is
in the cache, or the backend does not fail. -/
def PageComes (setup : Setup) (state : State ε) (fate : Option ε) (page : Nat) : Prop :=
  state.cache.has (setup.paging.pageStart page) = true ∨ fate = none

/-- The state after a page change that found the given hits and settled. -/
def turned
    (state : State ε)
    (cache : Cache)
    (lastError : Option ε)
    (failed : Bool)
    (page : Nat)
    (hits : List Hit) :
    State ε :=
  { state with
    pageRequest := state.pageRequest + 1
    isChangingPage := false
    cache
    lastError
    displayed := if hits.isEmpty then state.displayed else hits
    page := if hits.isEmpty then state.page else page
    status :=
      if state.status = .ready ∨ state.status = .pageFailed then
        if failed then .pageFailed else .ready
      else state.status }

/-- A session that keeps faith with its backend: it holds whole batches of the active
search, and a page that it shows as ready is the page without a cache. -/
structure Faithful (setup : Setup) (answers : Query -> Batch) (state : State ε) : Prop where
  holdsWholeBatches : HoldsWholeBatches setup answers state.search state.cache
  displayed_eq : state.status = .ready ∨ state.status = .pageFailed ->
    ∃ search, state.search = some search ∧
      state.displayed = uncachedPage setup answers search state.page
  not_changingPage : state.status ≠ .changingPage

/-- The status of a page change settles as the page change ends. -/
theorem status_settled
    {state : State ε}
    (settled : state.status ≠ .changingPage)
    (failed : Bool) :
    (if state.changingPage.status = .changingPage then
        if failed then .pageFailed else .ready
      else state.changingPage.status) =
      if state.status = .ready ∨ state.status = .pageFailed then
        if failed then Status.pageFailed else .ready
      else state.status := by
  by_cases shown : state.status = .ready ∨ state.status = .pageFailed
  · simp [changingPage, shown]
  · simp [changingPage, shown, settled]

/-- A newest page change that shows nothing settles. -/
theorem settle_eq_turned
    {setup : Setup}
    {state : State ε}
    (settled : state.status ≠ .changingPage)
    (cache : Cache)
    (lastError : Option ε)
    (failed : Bool)
    (page : Nat) :
    ({ state.changingPage with cache, lastError }).settlePage
        (state.pageCall setup page) failed =
      state.turned cache lastError failed page [] := by
  rw [settlePage_of_newest rfl]
  simp only [State.settled, status_settled settled]
  rfl

/-- A newest page change shows what it finds and settles. -/
theorem showAndSettle_eq_turned
    {setup : Setup}
    {state : State ε}
    (settled : state.status ≠ .changingPage)
    (cache : Cache)
    (lastError : Option ε)
    (page : Nat) :
    (({ state.changingPage with cache, lastError }).showPage setup
        (state.pageCall setup page)).1.settlePage (state.pageCall setup page) false =
      state.turned cache lastError false page (pageHits setup.paging cache page) := by
  by_cases empty : pageHits setup.paging cache page = []
  · have hidden :
        ¬({ state.changingPage with cache, lastError }).Shows setup
          (state.pageCall setup page) :=
      fun shows => shows.nonempty empty
    rw [showPage_of_not_shows hidden, settle_eq_turned settled, empty]
  · have shows :
        ({ state.changingPage with cache, lastError }).Shows setup
          (state.pageCall setup page) :=
      ⟨rfl, rfl, empty⟩
    have visible : (pageHits setup.paging cache page).isEmpty = false := by simpa using empty
    rw [showPage_of_shows shows, settlePage_of_newest rfl, pageShown, State.settled]
    simp only [status_settled settled, turned, visible]
    rfl

/-- A page change keeps faith when it finds nothing or the page without a cache. -/
theorem Faithful.turned
    {setup : Setup}
    {answers : Query -> Batch}
    {state : State ε}
    (faithful : state.Faithful setup answers)
    {cache : Cache}
    (whole : HoldsWholeBatches setup answers state.search cache)
    (lastError : Option ε)
    (failed : Bool)
    {number : Nat}
    {hits : List Hit}
    (found : hits ≠ [] ->
      ∃ search, state.search = some search ∧
        hits = uncachedPage setup answers search number) :
    (state.turned cache lastError failed number hits).Faithful setup answers := by
  refine ⟨whole, ?_, ?_⟩
  · intro shows
    have shown : state.status = .ready ∨ state.status = .pageFailed := by
      by_contra hidden
      simp only [State.turned, hidden, if_false] at shows
    cases hits with
    | nil => exact faithful.displayed_eq shown
    | cons hit hits => exact found (by simp)
  · have settled := faithful.not_changingPage
    simp only [State.turned]
    split
    · cases failed <;> simp
    · exact settled

section Changes

variable [Worded ε] {setup : Setup} {answers : Query -> Batch} {state : State ε} {page : Int}

/-- A page change that has nothing to fetch shows what the cache holds. -/
theorem after_changePage_of_nothing_to_fetch
    (settled : state.status ≠ .changingPage)
    (positive : 1 ≤ page)
    (nothing : (state.pageCall setup page.toNat).target = none)
    (backend : Query -> Except ε Batch) :
    state.after setup backend (.changePage page) =
      state.turned state.cache state.changingPage.lastError false page.toNat
        (pageHits setup.paging state.cache page.toNat) := by
  have part_eq :
      (state.pageCall setup page.toNat).afterBegin setup =
        .showing (state.pageCall setup page.toNat) := by
    simp only [PageCall.afterBegin, PageCall.query?, nothing]
  rw [after_changePage, (beginPageChange_eq_ok_iff ..).2 ⟨positive, rfl, rfl⟩]
  simp only [part_eq, Pending.finish]
  exact showAndSettle_eq_turned settled state.cache state.changingPage.lastError page.toNat

/-- A page change whose query cannot be compiled shows nothing. -/
theorem after_changePage_of_compile_error
    (settled : state.status ≠ .changingPage)
    (positive : 1 ≤ page)
    {search : Search}
    (target_eq : (state.pageCall setup page.toNat).target = some search)
    {cause : CompileError}
    (refuses :
      batchQuery setup search
        (setup.paging.batchStart (setup.paging.pageStart page.toNat)) = .error cause)
    (backend : Query -> Except ε Batch) :
    state.after setup backend (.changePage page) =
      state.turned state.cache state.changingPage.lastError false page.toNat [] := by
  have part_eq :
      (state.pageCall setup page.toNat).afterBegin setup =
        .settling (state.pageCall setup page.toNat) false := by
    have query_eq :
        batchQuery setup search ((state.pageCall setup page.toNat).batchStart setup) =
          .error cause := refuses
    simp only [PageCall.afterBegin, PageCall.query?, target_eq, query_eq, Except.map]
  rw [after_changePage, (beginPageChange_eq_ok_iff ..).2 ⟨positive, rfl, rfl⟩]
  simp only [part_eq, Pending.finish]
  exact settle_eq_turned settled state.cache state.changingPage.lastError false page.toNat

/-- A page change that has to fetch its batch writes the answer into the cache and shows
the page, or notes the failure. -/
theorem after_changePage_of_query
    (settled : state.status ≠ .changingPage)
    (positive : 1 ≤ page)
    {search : Search}
    (target_eq : (state.pageCall setup page.toNat).target = some search)
    {query : Query}
    (compiles :
      batchQuery setup search
        (setup.paging.batchStart (setup.paging.pageStart page.toNat)) = .ok query)
    (backend : Query -> Except ε Batch) :
    state.after setup backend (.changePage page) =
      match backend query with
      | .error failure => state.turned state.cache (some failure) true page.toNat []
      | .ok batch =>
          let cache := writeBatch setup.paging state.cache
            (setup.paging.batchStart (setup.paging.pageStart page.toNat)) batch.hits
          state.turned cache state.changingPage.lastError false page.toNat
            (pageHits setup.paging cache page.toNat) := by
  have part_eq :
      (state.pageCall setup page.toNat).afterBegin setup =
        .fetching (state.pageCall setup page.toNat) query := by
    have query_eq :
        batchQuery setup search ((state.pageCall setup page.toNat).batchStart setup) =
          .ok query := compiles
    simp only [PageCall.afterBegin, PageCall.query?, target_eq, query_eq, Except.map]
  rw [after_changePage, (beginPageChange_eq_ok_iff ..).2 ⟨positive, rfl, rfl⟩]
  simp only [part_eq, Pending.finish]
  cases backend query with
  | error failure =>
      rw [receivePage_error rfl]
      exact settle_eq_turned settled state.cache (some failure) true page.toNat
  | ok batch =>
      rw [receivePage_ok rfl]
      exact showAndSettle_eq_turned settled _ state.changingPage.lastError page.toNat

/-- What a whole page change does. It finds the page without a cache where the page comes,
and nothing where no search is active or the fetch fails. -/
theorem Faithful.after_changePage
    (faithful : state.Faithful setup answers)
    (positive : 1 ≤ page)
    (fate : Option ε) :
    ∃ cache lastError failed hits,
      HoldsWholeBatches setup answers state.search cache ∧
      state.after setup (served answers fate) (.changePage page) =
        state.turned cache lastError failed page.toNat hits ∧
      (∀ search, state.search = some search -> state.PageComes setup fate page.toNat ->
        hits = uncachedPage setup answers search page.toNat) ∧
      (state.search = none ∨ ¬state.PageComes setup fate page.toNat -> hits = []) := by
  have whole := faithful.holdsWholeBatches
  have settled := faithful.not_changingPage
  cases held : state.cache.has (setup.paging.pageStart page.toNat) with
  | true =>
      have nothing : (state.pageCall setup page.toNat).target = none := if_pos held
      refine ⟨_, _, _, _, whole,
        after_changePage_of_nothing_to_fetch settled positive nothing _, ?_, ?_⟩
      · intro search active _
        rw [active] at whole
        exact whole.pageHits_eq_of_has held
      · rintro (inactive | missing)
        · rw [inactive] at whole
          exact whole.pageHits_eq_nil _
        · exact absurd (.inl held) missing
  | false =>
      have target_eq : (state.pageCall setup page.toNat).target = state.search :=
        if_neg (by simp [held])
      cases active : state.search with
      | none =>
          rw [active] at whole target_eq
          refine ⟨_, _, _, _, whole,
            after_changePage_of_nothing_to_fetch settled positive target_eq _,
            fun _ impossible => ?_, fun _ => whole.pageHits_eq_nil _⟩
          cases impossible
      | some search =>
          rw [active] at whole target_eq
          cases compiles : batchQuery setup search
              (setup.paging.batchStart (setup.paging.pageStart page.toNat)) with
          | error cause =>
              refine ⟨_, _, _, _, whole,
                after_changePage_of_compile_error settled positive target_eq compiles _,
                ?_, fun _ => rfl⟩
              intro _ same _
              cases same
              rw [uncachedPage, compiles]
          | ok query =>
              have after_eq :=
                after_changePage_of_query settled positive target_eq compiles
                  (served answers fate)
              cases fate with
              | some failure =>
                  refine ⟨_, _, _, _, whole, after_eq, ?_, fun _ => rfl⟩
                  rintro _ _ (impossible | impossible)
                  · rw [held] at impossible
                    cases impossible
                  · cases impossible
              | none =>
                  refine ⟨_, _, _, _,
                    whole.write (setup.paging.batchSize_dvd_batchStart _) compiles,
                    after_eq, ?_, ?_⟩
                  · intro _ same _
                    cases same
                    exact whole.pageHits_writeBatch compiles
                  · rintro (impossible | missing)
                    · cases impossible
                    · exact absurd (.inr rfl) missing

/-- What a whole page change shows is a page of the active search. -/
theorem Faithful.after_changePage_shows
    (faithful : state.Faithful setup answers)
    (positive : 1 ≤ page)
    (fate : Option ε) :
    ∃ cache lastError failed hits,
      HoldsWholeBatches setup answers state.search cache ∧
      state.after setup (served answers fate) (.changePage page) =
        state.turned cache lastError failed page.toNat hits ∧
      (hits ≠ [] ->
        ∃ search, state.search = some search ∧
          hits = uncachedPage setup answers search page.toNat) := by
  obtain ⟨cache, lastError, failed, hits, whole, after_eq, found, missing⟩ :=
    faithful.after_changePage positive fate
  refine ⟨cache, lastError, failed, hits, whole, after_eq, fun nonempty => ?_⟩
  have allowed : ¬(state.search = none ∨ ¬state.PageComes setup fate page.toNat) :=
    fun refused => nonempty (missing refused)
  obtain ⟨active, comes⟩ := not_or.1 allowed
  obtain ⟨search, active⟩ := Option.ne_none_iff_exists'.1 active
  exact ⟨search, active, found search active (not_not.1 comes)⟩

/-- A page change to a page before the first one changes nothing. -/
theorem after_changePage_of_not_positive
    (refused : ¬1 ≤ page)
    (backend : Query -> Except ε Batch) :
    state.after setup backend (.changePage page) = state := by
  have pageBad : page < 1 := by omega
  have refuses : state.beginPageChange setup page = .error (.page page) := by
    rw [beginPageChange, checkPage, if_pos pageBad, error_bind]
  rw [State.after_changePage, refuses]

theorem after_reset
    (setup : Setup)
    (backend : Query -> Except ε Batch)
    (state : State ε) :
    state.after setup backend .reset = state.reset :=
  after_eq ..

/-- A selection, accepted or refused, touches nothing else. -/
theorem after_choose
    (setup : Setup)
    (backend : Query -> Except ε Batch)
    (state : State ε)
    (choice : Choice) :
    ∃ texts textFilter genres collections dates,
      state.after setup backend (.choose choice) =
        { state with texts, textFilter, genres, collections, dates } := by
  rw [after_eq]
  cases accepted : state.choose? choice with
  | none =>
      simp only [start?, accepted, Option.map_none]
      exact ⟨_, _, _, _, _, rfl⟩
  | some chosen =>
      simp only [start?, accepted, Option.map_some, List.foldl_nil]
      exact choose?_eq_some accepted

theorem after_search_of_error
    {search : Search}
    {texts : Option Value}
    {cause : CallError}
    (refused : state.beginSearch setup search texts page = .error cause)
    (backend : Query -> Except ε Batch) :
    state.after setup backend (.search search texts page) = state := by
  rw [after_search, refused]

/-- A search that begins takes the answer to the query for the batch of its page. -/
theorem after_search_of_ok
    {search active : Search}
    {texts : Option Value}
    {query : Query}
    (positive : 1 ≤ page)
    (restricts : restrict search texts = .ok active)
    (compiles :
      batchQuery setup active
        (setup.paging.batchStart (setup.paging.pageStart page.toNat)) = .ok query)
    (backend : Query -> Except ε Batch) :
    state.after setup backend (.search search texts page) =
      ((state.searchingFor active).finishSearch setup
        (state.searchCall setup active page.toNat query) (backend query)).1 := by
  rw [after_search,
    (beginSearch_eq_ok_iff ..).2 ⟨positive, active, query, restricts, compiles, rfl, rfl⟩]
  rfl

/-- An answered search keeps faith: it holds the batch of its page and shows the page. -/
theorem Faithful.answered
    (setup : Setup)
    (answers : Query -> Batch)
    (state : State ε)
    {active : Search}
    {number : Nat}
    {query : Query}
    (compiles :
      batchQuery setup active
        (setup.paging.batchStart (setup.paging.pageStart number)) = .ok query) :
    (((state.searchingFor active).finishSearch setup
      (state.searchCall setup active number query) (.ok (answers query))).1).Faithful
        setup answers := by
  have whole : HoldsWholeBatches setup answers (some active) .empty := .empty _
  rw [finishSearch_ok rfl]
  refine ⟨whole.write (setup.paging.batchSize_dvd_batchStart _) compiles, ?_,
    by simp [searchAnswered]⟩
  exact fun _ => ⟨active, rfl, whole.pageHits_writeBatch compiles⟩

/-- Every whole call keeps faith. -/
theorem Faithful.after
    (faithful : state.Faithful setup answers)
    (call : Call)
    (fate : Option ε) :
    (state.after setup (served answers fate) call).Faithful setup answers := by
  cases call with
  | search search texts page =>
      cases begins : state.beginSearch setup search texts page with
      | error cause =>
          rw [after_search_of_error begins]
          exact faithful
      | ok begun =>
          obtain ⟨positive, active, query, restricts, compiles, _, _⟩ :=
            (beginSearch_eq_ok_iff ..).1 begins
          rw [after_search_of_ok positive restricts compiles]
          cases fate with
          | some failure =>
              rw [served_some, finishSearch_error rfl]
              exact ⟨.empty _, by simp [searchFailed], by simp [searchFailed]⟩
          | none => exact .answered setup answers state compiles
  | changePage page =>
      by_cases positive : 1 ≤ page
      · obtain ⟨cache, lastError, failed, hits, whole, after_eq, found⟩ :=
          faithful.after_changePage_shows positive fate
        rw [after_eq]
        exact faithful.turned whole lastError failed found
      · rw [after_changePage_of_not_positive positive]
        exact faithful
  | reset =>
      rw [after_reset]
      exact ⟨.empty _, by simp [State.reset], by simp [State.reset]⟩
  | choose choice =>
      obtain ⟨texts, textFilter, genres, collections, dates, after_eq⟩ :=
        after_choose setup (served answers fate) state choice
      rw [after_eq]
      exact ⟨faithful.holdsWholeBatches, faithful.displayed_eq, faithful.not_changingPage⟩

/-- Every run of whole calls keeps faith. -/
theorem Faithful.afterAll
    (faithful : state.Faithful setup answers)
    (calls : List (Call × Option ε)) :
    (state.afterAll setup answers calls).Faithful setup answers := by
  induction calls generalizing state with
  | nil => exact faithful
  | cons step calls inductionHypothesis =>
      obtain ⟨call, fate⟩ := step
      exact inductionHypothesis (faithful.after call fate)

end Changes

theorem Faithful.initial
    (setup : Setup)
    (answers : Query -> Batch)
    (least greatest : Int) :
    (State.initial least greatest : State ε).Faithful setup answers :=
  ⟨.empty _, by simp [State.initial], by simp [State.initial]⟩

end State

/-- Paging with a cache is paging without one. After every run of whole calls, where each
call has a backend that fails or answers by the query alone, a session that is ready, or
whose last page change failed, shows the page of its active search that a session without
a cache shows. A search that is accepted and answered shows the page it names. A page
change shows its page when the page comes and has a hit, and otherwise keeps the display
and the page number. -/
theorem cached_paging_is_uncached_paging [Worded ε]
    {setup : Setup}
    {answers : Query -> Batch}
    {least greatest : Int}
    {calls : List (Call × Option ε)}
    {state : State ε}
    (runs : (State.initial least greatest).afterAll setup answers calls = state) :
    (state.status = .ready ∨ state.status = .pageFailed ->
      ∃ search, state.search = some search ∧
        state.displayed = uncachedPage setup answers search state.page) ∧
    (∀ search texts page,
      ((perform setup (served answers none) (.search search texts page)).run state).run.1 =
        .ok () ->
      (state.after setup (served answers none) (.search search texts page)).status = .ready ∧
      (state.after setup (served answers none) (.search search texts page)).page = page) ∧
    (state.status = .ready ∨ state.status = .pageFailed ->
      ∃ search, state.search = some search ∧
        ∀ page : Int, 1 ≤ page -> ∀ fate,
          (state.PageComes setup fate page.toNat ∧
              uncachedPage setup answers search page.toNat ≠ [] ->
            (state.after setup (served answers fate) (.changePage page)).page = page ∧
            (state.after setup (served answers fate) (.changePage page)).displayed =
              uncachedPage setup answers search page.toNat) ∧
          (¬(state.PageComes setup fate page.toNat ∧
              uncachedPage setup answers search page.toNat ≠ []) ->
            (state.after setup (served answers fate) (.changePage page)).page = state.page ∧
            (state.after setup (served answers fate) (.changePage page)).displayed =
              state.displayed)) := by
  have faithful : state.Faithful setup answers :=
    runs ▸ (State.Faithful.initial setup answers least greatest).afterAll calls
  refine ⟨faithful.displayed_eq, ?_, ?_⟩
  · intro search texts page accepted
    obtain ⟨begun, begins⟩ := (perform_search_eq_ok_iff ..).1 accepted
    obtain ⟨positive, active, query, restricts, compiles, _, _⟩ :=
      (State.beginSearch_eq_ok_iff ..).1 begins
    rw [State.after_search_of_ok positive restricts compiles, served_none,
      State.finishSearch_ok rfl]
    exact ⟨rfl, Int.toNat_of_nonneg (by omega)⟩
  · intro shown
    obtain ⟨search, active, _⟩ := faithful.displayed_eq shown
    refine ⟨search, active, fun page positive fate => ?_⟩
    obtain ⟨cache, lastError, failed, hits, _, after_eq, found, missing⟩ :=
      faithful.after_changePage positive fate
    rw [after_eq]
    constructor
    · rintro ⟨comes, nonempty⟩
      have hits_eq := found search active comes
      have visible : hits.isEmpty = false := by simpa [hits_eq] using nonempty
      simp only [State.turned, visible, Bool.false_eq_true, if_false]
      exact ⟨Int.toNat_of_nonneg (by omega), hits_eq⟩
    · intro hidden
      have hits_eq : hits = [] := by
        by_cases comes : state.PageComes setup fate page.toNat
        · rw [found search active comes]
          exact not_not.1 fun nonempty => hidden ⟨comes, nonempty⟩
        · exact missing (.inr comes)
      simp [State.turned, hits_eq]

/-- A search for a word with seven hits, its third page, and a page that cannot be
fetched. -/
def pagingCalls : List (Call × Option Backend.GatewayError) :=
  [(.search (wordSearch "word") none 1, none),
    (.changePage 3, none),
    (.changePage 5, some (.beyondWindow 10 8))]

/-- After a fetch that failed the session still shows the page without a cache, and the page
that is in the cache can be shown although the backend still fails. -/
theorem cached_paging_after_pagingCalls :
    ∃ state,
      (State.initial 0 2000).afterAll smallSetup (rankedAnswers 7) pagingCalls = state ∧
      state.status = .pageFailed ∧
      state.displayed.map Hit.textId = [4, 5] ∧
      state.displayed = uncachedPage smallSetup (rankedAnswers 7) (wordSearch "word") 3 ∧
      (state.after smallSetup (served (rankedAnswers 7) (some (.beyondWindow 10 8)))
        (.changePage 4)).page = 4 := by
  have summary :
      (fun state : State Backend.GatewayError =>
          (state.search, state.status, state.page, state.displayed.map Hit.textId,
            state.cache.has 6))
        ((State.initial 0 2000).afterAll smallSetup (rankedAnswers 7) pagingCalls) =
        (some (wordSearch "word"), .pageFailed, 3, [4, 5], true) := by
    rfl
  simp only [Prod.mk.injEq] at summary
  obtain ⟨active, status_eq, page_eq, ids, held⟩ := summary
  obtain ⟨displayed_eq, _, changes⟩ :=
    cached_paging_is_uncached_paging
      (rfl : (State.initial 0 2000).afterAll smallSetup (rankedAnswers 7) pagingCalls = _)
  refine ⟨_, rfl, status_eq, ids, ?_, ?_⟩
  · obtain ⟨search, same, shown⟩ := displayed_eq (.inr status_eq)
    cases active.symm.trans same
    rw [shown, page_eq]
  · obtain ⟨search, same, turns⟩ := changes (.inr status_eq)
    cases active.symm.trans same
    have length_eq :
        (uncachedPage smallSetup (rankedAnswers 7) (wordSearch "word") 4).length = 1 := by
      rfl
    have nonempty := List.ne_nil_of_length_eq_add_one length_eq
    have turned := (turns 4 (by decide) (some (.beyondWindow 10 8))).1 ⟨.inl held, nonempty⟩
    exact Int.ofNat_inj.1 turned.1

/-- A page change whose fetch does not fail can still keep the page number: there is no
hit on the page. -/
theorem fetched_page_without_hits_is_not_shown :
    ∃ state : State Backend.GatewayError,
      (State.initial 0 2000).afterAll smallSetup (rankedAnswers 3)
        [(.search (wordSearch "word") none 1, none)] = state ∧
      state.status = .ready ∧
      state.PageComes smallSetup none 4 ∧
      (state.after smallSetup (served (rankedAnswers 3) none) (.changePage 4)).page = 1 :=
  ⟨_, rfl, rfl, .inr rfl, rfl⟩

end Session
end Concordance
