import Concordance.Proofs.Session.Sequential
import Mathlib.Data.List.Basic

/-!
# Paging without a cache

A session without a cache would fetch the batch of a page each time the page is shown.
Where a backend answers by the query alone, a session with a cache shows the same pages:
after every run of whole calls, whatever failed in between, the page on display is the
page that such a session would show.

The invariant is about whole batches. When a rank is in the cache, every rank of its
batch is there as the answer for the batch has it, also where the answer has no hit. So
a page whose first rank is in the cache can be shown without asking again.
-/

namespace Concordance
namespace Session

variable {ε : Type}

/-- The hit that the answer for the batch of a rank brings to the rank. -/
def uncachedHit?
    (setup : Setup)
    (answers : Query -> Batch)
    (search : Search)
    (rank : Nat) :
    Option Hit :=
  match batchQuery setup search (setup.paging.batchStart rank) with
  | .error _ => none
  | .ok query => setup.paging.hitAt? (setup.paging.batchStart rank) (answers query).hits rank

/-- The page that a session without a cache shows. It asks for the batch of the page, cuts
the answer to the size of a batch and to the window, and takes the ranks of the page. -/
def uncachedPage
    (setup : Setup)
    (answers : Query -> Batch)
    (search : Search)
    (page : Nat) :
    List Hit :=
  let start := setup.paging.batchStart (setup.paging.pageStart page)
  match batchQuery setup search start with
  | .error _ => []
  | .ok query =>
      let kept := (answers query).hits.take
        (min setup.paging.batchSize (setup.paging.window - start))
      (kept.drop (setup.paging.pageStart page - start)).take setup.paging.pageSize

/-- Taking the hits at consecutive ranks, counted from a base, cuts a piece out of a
list. -/
theorem filterMap_getElem?_sub
    (hits : List Hit)
    {base start : Nat}
    (reached : base ≤ start)
    (count : Nat) :
    (List.range' start count).filterMap (fun rank => hits[rank - base]?) =
      (hits.drop (start - base)).take count := by
  induction count generalizing start with
  | zero => simp
  | succ count inductionHypothesis =>
      have next : start + 1 - base = start - base + 1 := by omega
      have rest := inductionHypothesis (Nat.le_succ_of_le reached)
      rw [next] at rest
      rw [List.range'_succ, List.filterMap_cons]
      rcases Nat.lt_or_ge (start - base) hits.length with inside | outside
      · rw [List.getElem?_eq_getElem inside, List.drop_eq_getElem_cons inside,
          List.take_succ_cons]
        exact congrArg _ rest
      · rw [List.getElem?_eq_none outside, List.drop_of_length_le outside, List.take_nil]
        rw [List.drop_of_length_le (by omega), List.take_nil] at rest
        exact rest

/-- Ranks of a batch that begins before them are cut to the batch and to the window. -/
theorem hitAt?_eq_getElem?_take
    (paging : Paging)
    (hits : List Hit)
    {start rank : Nat}
    (reached : start ≤ rank) :
    paging.hitAt? start hits rank =
      (hits.take (min paging.batchSize (paging.window - start)))[rank - start]? := by
  simp only [Paging.hitAt?, List.getElem?_take, reached, true_and, Nat.lt_min]
  by_cases inWindow : rank < paging.window
  · have stays : rank - start < paging.window - start := by omega
    simp only [inWindow, stays, and_true, if_true]
  · have leaves : ¬rank - start < paging.window - start := by omega
    simp only [inWindow, leaves, and_false, if_false]

/-- The page without a cache holds the hits of its ranks, in order. -/
theorem uncachedPage_eq_filterMap
    (setup : Setup)
    (answers : Query -> Batch)
    (search : Search)
    (page : Nat) :
    uncachedPage setup answers search page =
      (setup.paging.pageRanks page).filterMap (uncachedHit? setup answers search) := by
  have begins := setup.paging.batchStart_le (setup.paging.pageStart page)
  have hit_eq : ∀ rank ∈ setup.paging.pageRanks page,
      uncachedHit? setup answers search rank =
        match batchQuery setup search
            (setup.paging.batchStart (setup.paging.pageStart page)) with
        | .error _ => none
        | .ok query =>
            ((answers query).hits.take
              (min setup.paging.batchSize
                (setup.paging.window -
                  setup.paging.batchStart (setup.paging.pageStart page))))[rank -
                    setup.paging.batchStart (setup.paging.pageStart page)]? := by
    intro rank onPage
    obtain ⟨reached, inside⟩ := List.mem_range'_1.1 onPage
    rw [uncachedHit?, setup.paging.batchStart_of_page reached inside]
    cases batchQuery setup search
        (setup.paging.batchStart (setup.paging.pageStart page)) with
    | error cause => rfl
    | ok query => exact hitAt?_eq_getElem?_take _ _ (Nat.le_trans begins reached)
  rw [List.filterMap_congr hit_eq, uncachedPage]
  cases batchQuery setup search (setup.paging.batchStart (setup.paging.pageStart page)) with
  | error cause => simp
  | ok query => exact (filterMap_getElem?_sub _ begins _).symm

/-- The answer for a batch brings to its ranks what a session without a cache shows
there. -/
theorem uncachedHit?_eq_hitAt?
    {setup : Setup}
    (answers : Query -> Batch)
    {search : Search}
    {start rank : Nat}
    {query : Query}
    (compiles : batchQuery setup search start = .ok query)
    (sameBatch : setup.paging.batchStart rank = start) :
    uncachedHit? setup answers search rank =
      setup.paging.hitAt? start (answers query).hits rank := by
  rw [uncachedHit?, sameBatch, compiles]

/-- A cache holds whole batches of a search: where it holds a rank, it holds the batch of
the rank as the answer for the batch has it. -/
def HoldsWholeBatches
    (setup : Setup)
    (answers : Query -> Batch)
    (search? : Option Search)
    (cache : Cache) :
    Prop :=
  ∀ rank hit, cache.get? rank = some hit ->
    ∃ search, search? = some search ∧
      ∀ other, setup.paging.batchStart other = setup.paging.batchStart rank ->
        cache.get? other = uncachedHit? setup answers search other

namespace HoldsWholeBatches

variable {setup : Setup} {answers : Query -> Batch} {search : Search} {cache : Cache}

theorem empty (search? : Option Search) :
    HoldsWholeBatches setup answers search? .empty := by
  intro rank hit found
  rw [Cache.get?_empty] at found
  cases found

/-- After the answer for a batch is written, the batch is as the answer has it. -/
theorem get?_writeBatch_of_sameBatch
    (whole : HoldsWholeBatches setup answers (some search) cache)
    {start rank : Nat}
    {query : Query}
    (compiles : batchQuery setup search start = .ok query)
    (sameBatch : setup.paging.batchStart rank = start) :
    (writeBatch setup.paging cache start (answers query).hits).get? rank =
      uncachedHit? setup answers search rank := by
  rw [get?_writeBatch, ← uncachedHit?_eq_hitAt? answers compiles sameBatch]
  cases found : cache.get? rank with
  | none => exact Option.or_none
  | some hit =>
      obtain ⟨_, same, kept⟩ := whole rank hit found
      cases same
      rw [← kept rank rfl, found, Option.some_or]

/-- The other batches stay as they are. -/
theorem get?_writeBatch_of_otherBatch
    {start rank : Nat}
    (aligned : setup.paging.batchSize ∣ start)
    (otherBatch : setup.paging.batchStart rank ≠ start)
    (hits : List Hit) :
    (writeBatch setup.paging cache start hits).get? rank = cache.get? rank := by
  have missing : setup.paging.hitAt? start hits rank = none := by
    refine Option.eq_none_iff_forall_ne_some.2 fun hit brought => ?_
    obtain ⟨reached, inside, _⟩ := (setup.paging.hitAt?_eq_some_iff ..).1 brought
    exact otherBatch (setup.paging.batchStart_eq aligned reached inside)
  rw [get?_writeBatch, missing, Option.none_or]

/-- Writing the answer for a batch keeps all batches whole. -/
theorem write
    (whole : HoldsWholeBatches setup answers (some search) cache)
    {start : Nat}
    (aligned : setup.paging.batchSize ∣ start)
    {query : Query}
    (compiles : batchQuery setup search start = .ok query) :
    HoldsWholeBatches setup answers (some search)
      (writeBatch setup.paging cache start (answers query).hits) := by
  intro rank hit found
  by_cases written : setup.paging.batchStart rank = start
  · refine ⟨search, rfl, fun other sameBatch => ?_⟩
    exact whole.get?_writeBatch_of_sameBatch compiles (sameBatch.trans written)
  · rw [get?_writeBatch_of_otherBatch aligned written] at found
    obtain ⟨_, same, kept⟩ := whole rank hit found
    cases same
    refine ⟨search, rfl, fun other sameBatch => ?_⟩
    have otherBatch : setup.paging.batchStart other ≠ start := sameBatch ▸ written
    rw [get?_writeBatch_of_otherBatch aligned otherBatch, kept other sameBatch]

end HoldsWholeBatches

/-- A page whose batch is held as the answer has it is the page without a cache. -/
theorem pageHits_eq_uncachedPage
    {setup : Setup}
    {answers : Query -> Batch}
    {search : Search}
    {cache : Cache}
    {page : Nat}
    (holds : ∀ rank,
      setup.paging.batchStart rank = setup.paging.batchStart (setup.paging.pageStart page) ->
      cache.get? rank = uncachedHit? setup answers search rank) :
    pageHits setup.paging cache page = uncachedPage setup answers search page := by
  rw [pageHits_eq_filterMap, uncachedPage_eq_filterMap]
  refine List.filterMap_congr fun rank onPage => ?_
  obtain ⟨reached, inside⟩ := List.mem_range'_1.1 onPage
  exact holds rank (setup.paging.batchStart_of_page reached inside)

namespace HoldsWholeBatches

variable {setup : Setup} {answers : Query -> Batch} {search : Search} {cache : Cache}

/-- A page whose first rank is held can be shown from the cache. -/
theorem pageHits_eq_of_has
    (whole : HoldsWholeBatches setup answers (some search) cache)
    {page : Nat}
    (held : cache.has (setup.paging.pageStart page) = true) :
    pageHits setup.paging cache page = uncachedPage setup answers search page := by
  rw [Cache.has_eq_isSome] at held
  obtain ⟨hit, found⟩ := Option.isSome_iff_exists.1 held
  obtain ⟨_, same, kept⟩ := whole _ hit found
  cases same
  exact pageHits_eq_uncachedPage kept

/-- A page can be shown after the answer for its batch is written. -/
theorem pageHits_writeBatch
    (whole : HoldsWholeBatches setup answers (some search) cache)
    {page : Nat}
    {query : Query}
    (compiles :
      batchQuery setup search (setup.paging.batchStart (setup.paging.pageStart page)) =
        .ok query) :
    pageHits setup.paging
        (writeBatch setup.paging cache
          (setup.paging.batchStart (setup.paging.pageStart page)) (answers query).hits) page =
      uncachedPage setup answers search page :=
  pageHits_eq_uncachedPage fun _ sameBatch =>
    whole.get?_writeBatch_of_sameBatch compiles sameBatch

/-- A cache without an active search has no page. -/
theorem pageHits_eq_nil
    (whole : HoldsWholeBatches setup answers none cache)
    (page : Nat) :
    pageHits setup.paging cache page = [] := by
  refine List.eq_nil_iff_forall_not_mem.2 fun hit shown => ?_
  obtain ⟨rank, _, found⟩ := (mem_pageHits_iff ..).1 shown
  obtain ⟨_, none_eq, _⟩ := whole rank hit found
  cases none_eq

end HoldsWholeBatches

end Session
end Concordance
