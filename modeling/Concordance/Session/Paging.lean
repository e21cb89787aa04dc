/-!
# Paging

Hits are numbered by rank, counted from zero. They are fetched in batches and
shown in pages; a batch is a whole number of pages, so every page lies in one
batch. Ranks at or beyond the window are never kept.
-/

namespace Concordance

/-- The sizes of batches and pages and the window of ranks that are kept. -/
structure Paging where
  batchSize : Nat
  pageSize : Nat
  window : Nat
  pageSize_pos : 0 < pageSize
  batchSize_pos : 0 < batchSize
  pageSize_dvd_batchSize : pageSize ∣ batchSize
  window_pos : 0 < window

/-- The first size that does not fit. -/
inductive PagingError
  | pageSize
  | batchSize
  | window
  deriving DecidableEq, Repr

/-- The wording of a refusal. -/
def PagingError.message : PagingError -> String
  | .pageSize => "items_per_page must be positive"
  | .batchSize => "results_per_fetch must be a positive multiple of items_per_page"
  | .window => "max_result_window must be positive"

namespace Paging

/-- The hits that are fetched at once where no number is given. -/
def defaultBatchSize : Int := 200

/-- The hits on a page where no number is given. -/
def defaultPageSize : Int := 20

/-- The window where none is given. -/
def defaultWindow : Int := 10000

/-- The paging of three sizes; the page size is looked at first. -/
def ofSizes (batchSize pageSize window : Int) : Except PagingError Paging :=
  if pageSizeBad : pageSize ≤ 0 then .error .pageSize
  else if batchSizeBad : batchSize ≤ 0 ∨ batchSize % pageSize ≠ 0 then .error .batchSize
  else if windowBad : window ≤ 0 then .error .window
  else .ok
    { batchSize := batchSize.toNat
      pageSize := pageSize.toNat
      window := window.toNat
      pageSize_pos := by omega
      batchSize_pos := by omega
      pageSize_dvd_batchSize := by
        have divides : pageSize ∣ batchSize := Int.dvd_of_emod_eq_zero (by omega)
        rw [← Int.natCast_dvd_natCast, Int.toNat_of_nonneg (by omega),
          Int.toNat_of_nonneg (by omega)]
        exact divides
      window_pos := by omega }

/-- The rank of the first hit of a page; pages are counted from one. -/
def pageStart (paging : Paging) (page : Nat) : Nat :=
  (page - 1) * paging.pageSize

/-- The rank of the first hit of the batch that holds a rank. -/
def batchStart (paging : Paging) (rank : Nat) : Nat :=
  rank / paging.batchSize * paging.batchSize

/-- The page that begins with a batch. -/
def batchPage (paging : Paging) (batchStart : Nat) : Nat :=
  batchStart / paging.pageSize + 1

end Paging
end Concordance
