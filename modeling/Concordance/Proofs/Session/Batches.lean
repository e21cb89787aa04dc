import Concordance.Proofs.Query.Compile
import Concordance.Proofs.Session.Cache
import Concordance.Session.SearchCall

/-!
# Ranks, batches and pages

Every rank lies in one batch, and since a batch is a whole number of pages, all
ranks of a page lie in the same batch. The answer for a batch brings a hit to
each of its ranks, cut to the size of a batch and to the window; writing it into a
cache changes these ranks only. The query for a batch asks for the very ranks of the
batch, and a search that compiles for one batch compiles for all of them.
-/

namespace Concordance
namespace Paging

theorem batchStart_le (paging : Paging) (rank : Nat) :
    paging.batchStart rank ≤ rank :=
  Nat.div_mul_le_self rank paging.batchSize

/-- A rank lies before the end of its batch. -/
theorem lt_batchStart_add (paging : Paging) (rank : Nat) :
    rank < paging.batchStart rank + paging.batchSize := by
  have position := Nat.div_add_mod rank paging.batchSize
  have remainder := Nat.mod_lt rank paging.batchSize_pos
  rw [Nat.mul_comm] at position
  simp only [batchStart]
  omega

/-- The batch of a rank is the one whose ranks reach around it. -/
theorem batchStart_eq
    (paging : Paging)
    {start rank : Nat}
    (aligned : paging.batchSize ∣ start)
    (reached : start ≤ rank)
    (inside : rank < start + paging.batchSize) :
    paging.batchStart rank = start := by
  obtain ⟨number, rfl⟩ := aligned
  have quotient : rank / paging.batchSize = number :=
    Nat.div_eq_of_lt_le (by rwa [Nat.mul_comm]) (by rw [Nat.succ_mul, Nat.mul_comm]; omega)
  rw [batchStart, quotient, Nat.mul_comm]

theorem batchSize_dvd_batchStart (paging : Paging) (rank : Nat) :
    paging.batchSize ∣ paging.batchStart rank :=
  Nat.dvd_mul_left _ _

theorem pageSize_dvd_batchStart (paging : Paging) (rank : Nat) :
    paging.pageSize ∣ paging.batchStart rank :=
  Nat.dvd_trans paging.pageSize_dvd_batchSize (paging.batchSize_dvd_batchStart rank)

/-- The ranks of a page all lie in the batch of its first rank. -/
theorem batchStart_of_page
    (paging : Paging)
    {page rank : Nat}
    (reached : paging.pageStart page ≤ rank)
    (inside : rank < paging.pageStart page + paging.pageSize) :
    paging.batchStart rank = paging.batchStart (paging.pageStart page) := by
  have begins := paging.batchStart_le (paging.pageStart page)
  have ends := paging.lt_batchStart_add (paging.pageStart page)
  obtain ⟨batchPages, batchPages_eq⟩ := paging.pageSize_dvd_batchSize
  obtain ⟨startPages, startPages_eq⟩ := paging.pageSize_dvd_batchStart (paging.pageStart page)
  have fits : page - 1 < startPages + batchPages := by
    apply Nat.lt_of_mul_lt_mul_left (a := paging.pageSize)
    rw [Nat.mul_add, ← startPages_eq, ← batchPages_eq, Nat.mul_comm]
    exact ends
  have pageEnds :
      paging.pageStart page + paging.pageSize ≤
        paging.batchStart (paging.pageStart page) + paging.batchSize := by
    have whole := Nat.mul_le_mul_left paging.pageSize (Nat.succ_le_of_lt fits)
    rw [Nat.mul_succ, Nat.mul_add, ← startPages_eq, ← batchPages_eq, Nat.mul_comm] at whole
    exact whole
  exact paging.batchStart_eq (paging.batchSize_dvd_batchStart _) (by omega) (by omega)

/-- The page that begins with a batch begins at its first rank. -/
theorem pageStart_batchPage
    (paging : Paging)
    {start : Nat}
    (aligned : paging.pageSize ∣ start) :
    paging.pageStart (paging.batchPage start) = start := by
  rw [pageStart, batchPage, Nat.add_sub_cancel]
  exact Nat.div_mul_cancel aligned

/-- The ranks of the hits on a page, in order. -/
def pageRanks (paging : Paging) (page : Nat) : List Nat :=
  List.range' (paging.pageStart page) paging.pageSize

/-- The hit that an answer for the batch from `start` on brings to a rank. The
answer is cut to the size of a batch and to the window. -/
def hitAt? (paging : Paging) (start : Nat) (hits : List Hit) (rank : Nat) : Option Hit :=
  if start ≤ rank ∧ rank < paging.window then (hits.take paging.batchSize)[rank - start]?
  else none

/-- An answer brings its hits to the ranks of a batch inside the window. -/
theorem hitAt?_eq_some_iff
    (paging : Paging)
    (start : Nat)
    (hits : List Hit)
    (rank : Nat)
    (hit : Hit) :
    paging.hitAt? start hits rank = some hit ↔
      start ≤ rank ∧ rank < start + paging.batchSize ∧ rank < paging.window ∧
        hits[rank - start]? = some hit := by
  simp only [hitAt?, List.getElem?_take]
  constructor
  · intro found
    split at found
    · split at found
      · exact ⟨by omega, by omega, by omega, found⟩
      · cases found
    · cases found
  · rintro ⟨reached, inBatch, inWindow, found⟩
    have inside : rank - start < paging.batchSize := by omega
    simp [reached, inWindow, inside, found]

end Paging

namespace Session

/-- Writing a batch changes the ranks to which it brings a hit, and no others. -/
theorem get?_writeBatch
    (paging : Paging)
    (cache : Cache)
    (start : Nat)
    (hits : List Hit)
    (rank : Nat) :
    (writeBatch paging cache start hits).get? rank =
      (paging.hitAt? start hits rank).or (cache.get? rank) := by
  simp only [writeBatch, Cache.get?_overlay, List.length_take, Paging.hitAt?,
    List.getElem?_take]
  rcases Nat.lt_or_ge rank start with below | reached
  · simp [Nat.not_le.2 below]
  · by_cases written :
        rank < paging.window ∧ rank - start < paging.batchSize ∧ rank - start < hits.length
    · obtain ⟨inWindow, inBatch, inHits⟩ := written
      have inside :
          rank < start + min (min paging.batchSize (paging.window - start)) hits.length := by
        omega
      have kept : rank - start < min paging.batchSize (paging.window - start) := by omega
      rw [if_pos ⟨reached, inside⟩, if_pos kept, if_pos ⟨reached, inWindow⟩, if_pos inBatch,
        List.getElem?_eq_getElem inHits, Option.some_or]
    · have outside :
          ¬rank < start + min (min paging.batchSize (paging.window - start)) hits.length := by
        omega
      have missing :
          (if start ≤ rank ∧ rank < paging.window then
              if rank - start < paging.batchSize then hits[rank - start]? else none
            else none) = none := by
        split
        · split
          · exact List.getElem?_eq_none (by omega)
          · rfl
        · rfl
      rw [if_neg fun both => outside both.2, missing, Option.none_or]

/-- The hits of a page are those at its ranks; ranks without a hit are skipped. -/
theorem pageHits_eq_filterMap (paging : Paging) (cache : Cache) (page : Nat) :
    pageHits paging cache page = (paging.pageRanks page).filterMap cache.get? :=
  cache.slice_eq_filterMap (paging.pageStart page) paging.pageSize

theorem mem_pageHits_iff (paging : Paging) (cache : Cache) (page : Nat) (hit : Hit) :
    hit ∈ pageHits paging cache page ↔
      ∃ rank ∈ paging.pageRanks page, cache.get? rank = some hit := by
  rw [pageHits_eq_filterMap, List.mem_filterMap]

theorem batchQuery_offset
    {setup : Setup}
    {search : Search}
    {start : Nat}
    {query : Query}
    (aligned : setup.paging.pageSize ∣ start)
    (compiles : batchQuery setup search start = .ok query) :
    query.offset = start := by
  obtain ⟨_, _, _, compiled, _, _, rfl⟩ := (Query.compile_eq_ok_iff ..).1 compiles
  have back := setup.paging.pageStart_batchPage aligned
  have positive : 1 ≤ setup.paging.batchPage start := Nat.le_add_left 1 _
  rw [Paging.pageStart] at back
  calc
    ((setup.paging.batchPage start : Int) - 1) * setup.paging.pageSize
    _ = ((setup.paging.batchPage start - 1 : Nat) : Int) * setup.paging.pageSize := by
      rw [Int.ofNat_sub positive]
      rfl
    _ = start := by exact_mod_cast back

/-- The query for a batch asks for as many ranks as a batch has. -/
theorem batchQuery_size
    {setup : Setup}
    {search : Search}
    {start : Nat}
    {query : Query}
    (compiles : batchQuery setup search start = .ok query) :
    query.size = setup.paging.batchSize := by
  obtain ⟨_, _, _, _, _, _, rfl⟩ := (Query.compile_eq_ok_iff ..).1 compiles
  rfl

/-- The query for a batch is the query for the first batch with another window. -/
theorem batchQuery_eq_window
    {setup : Setup}
    {search : Search}
    {start : Nat}
    {query base : Query}
    (aligned : setup.paging.pageSize ∣ start)
    (compiles : batchQuery setup search start = .ok query)
    (baseCompiles : batchQuery setup search 0 = .ok base) :
    query = { base with offset := (start : Int), size := (setup.paging.batchSize : Int) } := by
  have offset_eq := batchQuery_offset aligned compiles
  obtain ⟨_, _, _, compiled, question, _, rfl⟩ := (Query.compile_eq_ok_iff ..).1 compiles
  obtain ⟨_, _, _, baseCompiled, sameQuestion, _, rfl⟩ :=
    (Query.compile_eq_ok_iff ..).1 baseCompiles
  cases question.symm.trans sameQuestion
  rw [← offset_eq]
  rfl

/-- A search that compiles for one batch compiles for every batch. -/
theorem batchQuery_isOk
    {setup : Setup}
    {search : Search}
    {start : Nat}
    {query : Query}
    (compiles : batchQuery setup search start = .ok query)
    (other : Nat) :
    ∃ otherQuery, batchQuery setup search other = .ok otherQuery :=
  Query.compile_isOk_of_compile compiles (Int.ofNat_le.2 (Nat.le_add_left 1 _))

/-- The queries of a search for two batches have the same clauses. -/
theorem batchQuery_must_eq
    {setup : Setup}
    {search : Search}
    {start other : Nat}
    {query otherQuery : Query}
    (compiles : batchQuery setup search start = .ok query)
    (otherCompiles : batchQuery setup search other = .ok otherQuery) :
    query.must = otherQuery.must := by
  obtain ⟨_, _, _, compiled, question, _, rfl⟩ := (Query.compile_eq_ok_iff ..).1 compiles
  obtain ⟨_, _, _, otherCompiled, sameQuestion, _, rfl⟩ :=
    (Query.compile_eq_ok_iff ..).1 otherCompiles
  cases question.symm.trans sameQuestion
  rfl

end Session
end Concordance
