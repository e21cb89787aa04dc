import Concordance.Proofs.Session.CachedPaging
import Concordance.Proofs.Session.Flags

/-!
# Hits on display and the number of all hits

Whole calls on a session, one after another, against a backend that has one list of hits for
each search: it answers a query by the slice that the query names, with the length of the
list, or fails. The number of all hits is written by searches alone, while page changes write
the display, and a search that fails stays active. So a page change can show hits of a search
that has failed, whose number of hits is still reported as zero.

The invariant keeps books on both: what is on display is a page of the active search, and
the number of all hits is the length of its list, or zero where the search has failed.
-/

namespace Concordance
namespace Session

/-- A backend with one list of hits for each search. It answers a query by the slice that the
query names, and reports the length of the list. -/
def Lists (setup : Setup) (answers : Query -> Batch) (hitsOf : Search -> List Hit) : Prop :=
  ∀ search start query, batchQuery setup search start = .ok query ->
    (answers query).hits =
        ((hitsOf search).drop query.offset.toNat).take query.size.toNat ∧
      (answers query).total = (hitsOf search).length

/-- Whether a search is accepted; the state of the session plays no part in that. -/
def accepts (setup : Setup) (search : Search) (texts : Option Value) (page : Int) : Bool :=
  match restrict search texts with
  | .error _ => false
  | .ok active => (pageQuery setup active page).isOk

variable {ε : Type}

/-- Whether the search that was accepted last has failed, after one more call. A reset
forgets it, and calls that are no accepted search leave that as it was. -/
def searchFails (setup : Setup) (failed : Bool) : Call × Option ε -> Bool
  | (.search search texts page, fate) =>
      if accepts setup search texts page then fate.isSome else failed
  | (.changePage _, _) => failed
  | (.reset, _) => false
  | (.choose _, _) => failed

/-- Whether the last accepted search of a run has failed, and no reset has come since. -/
def lastSearchFailed (setup : Setup) (calls : List (Call × Option ε)) : Bool :=
  calls.foldl (searchFails setup) false

/-- A search is accepted exactly when it begins. -/
theorem accepts_iff
    (setup : Setup)
    (state : State ε)
    (search : Search)
    (texts : Option Value)
    (page : Int) :
    accepts setup search texts page = true ↔
      ∃ begun, state.beginSearch setup search texts page = .ok begun := by
  simp only [Prod.exists, State.beginSearch_eq_ok_iff, accepts]
  cases restrict search texts with
  | error cause => simp
  | ok active =>
      have isOk_iff :
          (pageQuery setup active page).isOk = true ↔
            ∃ query, pageQuery setup active page = .ok query := by
        cases pageQuery setup active page <;> simp [Except.isOk, Except.toBool]
      simp [isOk_iff, pageQuery_eq_ok_iff]

/-- A page that has a hit begins before the end of the list. -/
theorem Lists.pageStart_lt
    {setup : Setup}
    {answers : Query -> Batch}
    {hitsOf : Search -> List Hit}
    (lists : Lists setup answers hitsOf)
    {search : Search}
    {page : Nat}
    (shows : uncachedPage setup answers search page ≠ []) :
    setup.paging.pageStart page < (hitsOf search).length := by
  have begins := setup.paging.batchStart_le (setup.paging.pageStart page)
  rw [uncachedPage] at shows
  cases compiles :
      batchQuery setup search (setup.paging.batchStart (setup.paging.pageStart page)) with
  | error cause => simp [compiles] at shows
  | ok query =>
      have offset_eq := batchQuery_offset (setup.paging.pageSize_dvd_batchStart _) compiles
      have visible := List.length_pos_iff.2 shows
      simp only [compiles, (lists _ _ _ compiles).1, offset_eq, Int.toNat_natCast,
        List.length_take, List.length_drop] at visible
      omega

namespace State

/-- A session with the books in order. What it shows is a page of its active search, and it
reports the length of the list of that search, or zero where the search has failed. -/
structure Accounts
    (setup : Setup)
    (answers : Query -> Batch)
    (hitsOf : Search -> List Hit)
    (state : State ε)
    (failed : Bool) :
    Prop where
  faithful : state.Faithful setup answers
  displayed_eq : state.displayed ≠ [] ->
    ∃ search, state.search = some search ∧
      state.displayed = uncachedPage setup answers search state.page
  failed_iff : state.status = .failed ↔ failed = true
  total_eq : ∀ search, state.search = some search ->
    state.total = if failed then 0 else ((hitsOf search).length : Int)

variable
  {setup : Setup}
  {answers : Query -> Batch}
  {hitsOf : Search -> List Hit}
  {state : State ε}
  {failed : Bool}

theorem Accounts.initial (least greatest : Int) :
    (State.initial least greatest : State ε).Accounts setup answers hitsOf false where
  faithful := .initial setup answers least greatest
  displayed_eq := by simp [State.initial]
  failed_iff := by simp [State.initial]
  total_eq := by simp [State.initial]

theorem totalPages_of_total_eq_zero
    (setup : Setup)
    (none_reported : state.total = 0) :
    state.totalPages setup = .ok 0 := by
  simp [totalPages, none_reported, Binary64.ofRatio?, Binary64.signedZero, Binary64.ceiling?,
    Binary64.integerPart]

/-- A page change leaves the number of all hits alone, and shows nothing but a page of the
active search. -/
theorem Accounts.turned
    (accounts : state.Accounts setup answers hitsOf failed)
    {cache : Cache}
    (whole : HoldsWholeBatches setup answers state.search cache)
    (lastError : Option ε)
    (fetchFailed : Bool)
    {number : Nat}
    {hits : List Hit}
    (found : hits ≠ [] ->
      ∃ search, state.search = some search ∧
        hits = uncachedPage setup answers search number) :
    (state.turned cache lastError fetchFailed number hits).Accounts
      setup answers hitsOf failed where
  faithful := accounts.faithful.turned whole lastError fetchFailed found
  displayed_eq := by
    cases hits with
    | nil => exact accounts.displayed_eq
    | cons hit hits => exact fun _ => found (by simp)
  failed_iff := by
    rw [← accounts.failed_iff]
    by_cases shown : state.status = .ready ∨ state.status = .pageFailed
    · have notFailed : state.status ≠ .failed := by
        rcases shown with ready | pageFailed
        · simp [ready]
        · simp [pageFailed]
      cases fetchFailed <;> simp [State.turned, shown, notFailed]
    · simp [State.turned, shown]
  total_eq := accounts.total_eq

variable [Worded ε]

/-- A search that is accepted opens new books. -/
theorem Accounts.searched
    (lists : Lists setup answers hitsOf)
    (state : State ε)
    {active : Search}
    {number : Nat}
    {query : Query}
    (compiles :
      batchQuery setup active
        (setup.paging.batchStart (setup.paging.pageStart number)) = .ok query)
    (fate : Option ε) :
    (((state.searchingFor active).finishSearch setup
      (state.searchCall setup active number query) (served answers fate query)).1).Accounts
        setup answers hitsOf fate.isSome := by
  cases fate with
  | some failure =>
      rw [served_some, finishSearch_error rfl]
      exact
        { faithful := ⟨.empty _, by simp [searchFailed], by simp [searchFailed]⟩
          displayed_eq := by simp [searchFailed]
          failed_iff := by simp [searchFailed]
          total_eq := by simp [searchFailed] }
  | none =>
      have faithful := Faithful.answered setup answers state compiles
      rw [served_none]
      rw [finishSearch_ok rfl] at faithful ⊢
      refine ⟨faithful, fun _ => faithful.displayed_eq (.inl rfl), by simp [searchAnswered], ?_⟩
      intro search same
      cases same
      exact (lists _ _ _ compiles).2

/-- Every whole call keeps the books in order. -/
theorem Accounts.after
    (lists : Lists setup answers hitsOf)
    (accounts : state.Accounts setup answers hitsOf failed)
    (call : Call)
    (fate : Option ε) :
    (state.after setup (served answers fate) call).Accounts setup answers hitsOf
      (searchFails setup failed (call, fate)) := by
  cases call with
  | search search texts page =>
      cases begins : state.beginSearch setup search texts page with
      | error cause =>
          have refused : ¬accepts setup search texts page = true := by
            simp [accepts_iff setup state, begins]
          rw [after_search_of_error begins, searchFails, if_neg refused]
          exact accounts
      | ok begun =>
          have accepted : accepts setup search texts page = true :=
            (accepts_iff setup state ..).2 ⟨begun, begins⟩
          obtain ⟨positive, active, query, restricts, compiles, _, _⟩ :=
            (beginSearch_eq_ok_iff ..).1 begins
          rw [after_search_of_ok positive restricts compiles, searchFails, if_pos accepted]
          exact .searched lists state compiles fate
  | changePage page =>
      by_cases positive : 1 ≤ page
      · obtain ⟨cache, lastError, fetchFailed, hits, whole, after_eq, found⟩ :=
          accounts.faithful.after_changePage_shows positive fate
        rw [after_eq]
        exact accounts.turned whole lastError fetchFailed found
      · rw [after_changePage_of_not_positive positive]
        exact accounts
  | reset =>
      rw [after_reset]
      exact
        { faithful := ⟨.empty _, by simp [State.reset], by simp [State.reset]⟩
          displayed_eq := by simp [State.reset]
          failed_iff := by simp [State.reset, searchFails]
          total_eq := by simp [State.reset] }
  | choose choice =>
      obtain ⟨texts, textFilter, genres, collections, dates, after_eq⟩ :=
        after_choose setup (served answers fate) state choice
      have faithful := accounts.faithful.after (.choose choice) fate
      rw [after_eq] at faithful ⊢
      exact ⟨faithful, accounts.displayed_eq, accounts.failed_iff, accounts.total_eq⟩

/-- Every run of whole calls keeps the books in order. -/
theorem Accounts.afterAll
    (lists : Lists setup answers hitsOf)
    (accounts : state.Accounts setup answers hitsOf failed)
    (calls : List (Call × Option ε)) :
    (state.afterAll setup answers calls).Accounts setup answers hitsOf
      (calls.foldl (searchFails setup) failed) := by
  induction calls generalizing state failed with
  | nil => exact accounts
  | cons step calls inductionHypothesis =>
      obtain ⟨call, fate⟩ := step
      exact inductionHypothesis (accounts.after lists call fate)

end State

variable [Worded ε]

/-- After whole calls a session that has an active search shows how that search or the last
page change ended. -/
theorem status_after_whole_calls
    {setup : Setup}
    {answers : Query -> Batch}
    {least greatest : Int}
    {calls : List (Call × Option ε)}
    {state : State ε}
    (runs : (State.initial least greatest).afterAll setup answers calls = state)
    (active : state.search ≠ none) :
    state.status = .ready ∨ state.status = .failed ∨ state.status = .pageFailed := by
  obtain ⟨world, reachable, rests, state_eq⟩ :=
    (Reachable.initial least greatest).afterAll rfl answers calls
  have same : world.state = state := state_eq.trans runs
  have consistent := reachable.consistent
  have rest := reachable.status_at_rest rests
  rw [same] at consistent rest
  have searched := consistent.searched_iff_search.2 active
  exact rest.resolve_left (consistent.searched_iff_status.1 searched)

/-- When the hits on display agree with the reported number of hits. After every run of whole
calls a session that shows hits reports the length of the list of its active search, is ready
or has a failed page change, and shows a page that begins before the end of the list, exactly
when the last accepted search of the run has not failed. After a search that has failed it
shows hits of that search while it reports no hits, no pages and a failed search. -/
theorem displayed_hits_agree_with_total_iff
    {setup : Setup}
    {answers : Query -> Batch}
    {hitsOf : Search -> List Hit}
    (lists : Lists setup answers hitsOf)
    {least greatest : Int}
    {calls : List (Call × Option ε)}
    {state : State ε}
    (runs : (State.initial least greatest).afterAll setup answers calls = state)
    (shows : state.displayed ≠ []) :
    ∃ search, state.search = some search ∧
      ((state.total = (hitsOf search).length ∧
          (state.status = .ready ∨ state.status = .pageFailed) ∧
          (setup.paging.pageStart state.page : Int) < state.total) ↔
        lastSearchFailed setup calls = false) ∧
      (lastSearchFailed setup calls = true ->
        state.total = 0 ∧ state.totalPages setup = .ok 0 ∧ state.status = .failed ∧
          setup.paging.pageStart state.page < (hitsOf search).length) := by
  have accounts :
      state.Accounts setup answers hitsOf (lastSearchFailed setup calls) :=
    runs ▸ (State.Accounts.initial least greatest).afterAll lists calls
  obtain ⟨search, active, displayed_eq⟩ := accounts.displayed_eq shows
  have begins : setup.paging.pageStart state.page < (hitsOf search).length :=
    lists.pageStart_lt (displayed_eq ▸ shows)
  have total_eq := accounts.total_eq search active
  refine ⟨search, active, ⟨?_, ?_⟩, ?_⟩
  · rintro ⟨_, shown, _⟩
    refine Bool.eq_false_iff.2 fun failed => ?_
    have status_eq := accounts.failed_iff.2 failed
    rw [status_eq] at shown
    rcases shown with impossible | impossible <;> cases impossible
  · intro answered
    simp only [answered, Bool.false_eq_true, if_false] at total_eq
    have notFailed : state.status ≠ .failed := by
      simp [accounts.failed_iff, answered]
    refine ⟨total_eq, ?_, by omega⟩
    rcases status_after_whole_calls runs (by simp [active]) with ready | failed | pageFailed
    · exact .inl ready
    · exact absurd failed notFailed
    · exact .inr pageFailed
  · intro failed
    have none_reported : state.total = 0 := by simpa [failed] using total_eq
    exact ⟨none_reported, State.totalPages_of_total_eq_zero setup none_reported,
      accounts.failed_iff.2 failed, begins⟩

/-- A backend that has the same hits for every search. -/
def listedAnswers (hits : List Hit) (query : Query) : Batch where
  hits := (hits.drop query.offset.toNat).take query.size.toNat
  total := hits.length

/-- After a search with five hits, its third page, and a page that cannot be fetched, the
session shows the last hit and reports five. -/
theorem displayed_hits_agree_with_total_after_pagingCalls :
    ∃ state,
      (State.initial 0 2000).afterAll smallSetup
        (listedAnswers (hitsAt ["hit0", "hit1", "hit2", "hit3", "hit4"]).hits) pagingCalls =
          state ∧
      state.displayed.map Hit.uri = ["hit4"] ∧
      lastSearchFailed smallSetup pagingCalls = false ∧
      state.total = 5 ∧
      state.status = .pageFailed := by
  have summary :
      (fun state : State Backend.GatewayError =>
          (state.search, state.status, state.displayed.map Hit.uri))
        ((State.initial 0 2000).afterAll smallSetup
          (listedAnswers (hitsAt ["hit0", "hit1", "hit2", "hit3", "hit4"]).hits) pagingCalls) =
        (some (wordSearch "word"), .pageFailed, ["hit4"]) := by
    rfl
  simp only [Prod.mk.injEq] at summary
  obtain ⟨active, status_eq, uris⟩ := summary
  have answered : lastSearchFailed smallSetup pagingCalls = false := by
    rfl
  have lists :
      Lists smallSetup
        (listedAnswers (hitsAt ["hit0", "hit1", "hit2", "hit3", "hit4"]).hits)
        (fun _ => (hitsAt ["hit0", "hit1", "hit2", "hit3", "hit4"]).hits) :=
    fun _ _ _ _ => ⟨rfl, rfl⟩
  obtain ⟨search, same, agrees_iff, _⟩ :=
    displayed_hits_agree_with_total_iff lists
      (rfl : (State.initial 0 2000).afterAll smallSetup _ pagingCalls = _)
      (by
        intro empty
        rw [empty] at uris
        cases uris)
  exact ⟨_, rfl, uris, answered, (agrees_iff.2 answered).1, status_eq⟩

/-- A search that fails, and its first page. -/
def recoveredSearch : List (Call × Option Backend.GatewayError) :=
  [(.search (wordSearch "word") none 1, some (.beyondWindow 10 0)),
    (.changePage 1, none)]

/-- A session can show hits while it reports no hits, no pages and a failed search. -/
theorem recoveredSearch_shows_hits_of_failed_search :
    ∃ state : State Backend.GatewayError,
      (State.initial 0 2000).afterAll smallSetup
        (listedAnswers (hitsAt ["hit0", "hit1", "hit2"]).hits) recoveredSearch = state ∧
      state.displayed.map Hit.uri = ["hit0", "hit1"] ∧
      state.total = 0 ∧
      state.totalPages smallSetup = .ok 0 ∧
      state.status = .failed :=
  ⟨_, rfl, rfl, rfl, State.totalPages_of_total_eq_zero _ rfl, rfl⟩

end Session
end Concordance
