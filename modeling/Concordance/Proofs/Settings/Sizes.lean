import Concordance.Proofs.Outcome
import Concordance.Settings.Reading

/-!
# Sizes in settings

Settings that are read have been checked, so their sizes fit together: a batch is a whole number
of pages and no larger than the window. A session can therefore be set up from them, with the
very sizes that were given.
-/

namespace Concordance

namespace Settings

/-- Sizes that fit together: pages, batches and the window. -/
structure SizesFit (settings : Settings) : Prop where
  pageSize_pos : 0 < settings.search.pageSize
  batchSize_pos : 0 < settings.search.batchSize
  pageSize_dvd_batchSize : settings.search.pageSize ∣ settings.search.batchSize
  batchSize_le_window : settings.search.batchSize ≤ settings.backend.window

/-- An integer that passes the check is positive. -/
theorem pos_of_checkPositive
    {number : Int}
    {key : String}
    (passes : checkPositive number key = .ok ()) :
    0 < number := by
  obtain ⟨positive, _⟩ := of_guarded_eq_ok passes
  exact Int.not_le.1 positive

/-- Settings that pass all checks have sizes that fit together. -/
theorem sizesFit_of_check
    {settings : Settings}
    (passes : settings.check = .ok ()) :
    settings.SizesFit := by
  obtain ⟨_, _, passes⟩ := exists_of_bind_eq_ok passes
  obtain ⟨_, _, passes⟩ := exists_of_bind_eq_ok passes
  obtain ⟨_, searchPasses, passes⟩ := exists_of_bind_eq_ok passes
  obtain ⟨fits, _⟩ := of_guarded_eq_ok passes
  obtain ⟨_, pagePasses, searchPasses⟩ := exists_of_bind_eq_ok searchPasses
  obtain ⟨_, batchPasses, searchPasses⟩ := exists_of_bind_eq_ok searchPasses
  obtain ⟨whole, _⟩ := of_guarded_eq_ok searchPasses
  exact
    { pageSize_pos := pos_of_checkPositive pagePasses
      batchSize_pos := pos_of_checkPositive batchPasses
      pageSize_dvd_batchSize := Int.dvd_of_emod_eq_zero (Decidable.not_not.1 whole)
      batchSize_le_window := Int.not_lt.1 fits }

/-- Settings that can be read have been checked. -/
theorem check_of_read
    {root : Entries Value}
    {environment : Entries String}
    {settings : Settings}
    (reads : read root environment = .ok settings) :
    settings.check = .ok () := by
  unfold read at reads
  obtain ⟨journal, _, reads⟩ := exists_of_bind_eq_ok reads
  obtain ⟨backend, _, reads⟩ := exists_of_bind_eq_ok reads
  obtain ⟨search, _, reads⟩ := exists_of_bind_eq_ok reads
  obtain ⟨⟨⟩, passes, reads⟩ := exists_of_bind_eq_ok reads
  cases reads
  exact passes

/-- A session can be set up from sizes that fit together, and has these sizes. -/
theorem SizesFit.sessionSetup_eq_ok
    {settings : Settings}
    (fit : settings.SizesFit) :
    ∃ setup,
      settings.sessionSetup = .ok setup ∧
      (setup.paging.batchSize : Int) = settings.search.batchSize ∧
      (setup.paging.pageSize : Int) = settings.search.pageSize ∧
      (setup.paging.window : Int) = settings.backend.window := by
  obtain ⟨pagePositive, batchPositive, divides, fits⟩ := fit
  have whole := Int.emod_eq_zero_of_dvd divides
  have pageFits : ¬settings.search.pageSize ≤ 0 := by omega
  have batchFits :
      ¬(settings.search.batchSize ≤ 0 ∨
        settings.search.batchSize % settings.search.pageSize ≠ 0) := by
    omega
  have windowFits : ¬settings.backend.window ≤ 0 := by omega
  simp only [sessionSetup, Paging.ofSizes, dif_neg pageFits, dif_neg batchFits,
    dif_neg windowFits]
  exact ⟨_, rfl, Int.toNat_of_nonneg (by omega), Int.toNat_of_nonneg (by omega),
    Int.toNat_of_nonneg (by omega)⟩

end Settings
end Concordance
