import Concordance.Proofs.Numeral.Integer
import Concordance.TextIds.Reading
import Mathlib.Data.List.Basic

/-!
# Runs of text ids

The distinct ids of a list ascend and are the ids of the list. Its runs are put together from
its ids in their order, so the ids of all runs are the list again.
-/

namespace Concordance
namespace TextIds

/-- The ids of a list in ascending order, each of them once. -/
structure IsAscendingOf (ids given : List Int) : Prop where
  pairwise_lt : ids.Pairwise (· < ·)
  mem_iff : ∀ id, id ∈ ids ↔ id ∈ given

/-- Repeated elements are left out and nothing else. -/
theorem dropRepeats_sublist (ids : List Int) : (dropRepeats ids).Sublist ids := by
  induction ids using dropRepeats.induct with
  | case1 => exact List.Sublist.refl _
  | case2 id => exact List.Sublist.refl _
  | case3 next rest inductionHypothesis =>
      rw [dropRepeats, if_pos rfl]
      exact inductionHypothesis.cons next
  | case4 id next rest different inductionHypothesis =>
      rw [dropRepeats, if_neg different]
      exact inductionHypothesis.cons_cons id

/-- Every element is kept once at least. -/
theorem mem_dropRepeats (ids : List Int) (id : Int) : id ∈ dropRepeats ids ↔ id ∈ ids := by
  induction ids using dropRepeats.induct with
  | case1 => rfl
  | case2 id => rfl
  | case3 next rest inductionHypothesis =>
      rw [dropRepeats, if_pos rfl, inductionHypothesis]
      simp
  | case4 first next rest different inductionHypothesis =>
      rw [dropRepeats, if_neg different, List.mem_cons, inductionHypothesis, ← List.mem_cons]

/-- In a list in order, the elements that are kept ascend strictly. -/
theorem pairwise_lt_dropRepeats
    {ids : List Int}
    (sorted : ids.Pairwise (· ≤ ·)) :
    (dropRepeats ids).Pairwise (· < ·) := by
  induction ids using dropRepeats.induct with
  | case1 => exact List.Pairwise.nil
  | case2 id => exact List.pairwise_singleton _ _
  | case3 next rest inductionHypothesis =>
      rw [dropRepeats, if_pos rfl]
      exact inductionHypothesis sorted.of_cons
  | case4 id next rest different inductionHypothesis =>
      rw [dropRepeats, if_neg different, List.pairwise_cons]
      refine ⟨?_, inductionHypothesis sorted.of_cons⟩
      intro other member
      rw [mem_dropRepeats] at member
      have below : id < next := by
        have := List.rel_of_pairwise_cons sorted (List.mem_cons_self : next ∈ next :: rest)
        omega
      rcases List.mem_cons.1 member with rfl | later
      · exact below
      · exact Int.lt_of_lt_of_le below (List.rel_of_pairwise_cons sorted.of_cons later)

/-- An ascending list has nothing to leave out. -/
theorem dropRepeats_eq_self
    {ids : List Int}
    (ascends : ids.Pairwise (· < ·)) :
    dropRepeats ids = ids := by
  induction ids using dropRepeats.induct with
  | case1 => rfl
  | case2 id => rfl
  | case3 next rest inductionHypothesis =>
      have := List.rel_of_pairwise_cons ascends (List.mem_cons_self : next ∈ next :: rest)
      omega
  | case4 id next rest different inductionHypothesis =>
      rw [dropRepeats, if_neg different, inductionHypothesis ascends.of_cons]

@[simp] theorem ascending_nil : ascending [] = [] := by
  simp [ascending, dropRepeats]

/-- The distinct ids of a list ascend. -/
theorem ascending_isAscendingOf (ids : List Int) : IsAscendingOf (ascending ids) ids where
  pairwise_lt := by
    apply pairwise_lt_dropRepeats
    have sorted : (ids.mergeSort).Pairwise fun a b => decide (a ≤ b) = true := by
      apply List.pairwise_mergeSort
      · simpa using fun a b c => Int.le_trans
      · simpa using Int.le_total
    simpa using sorted
  mem_iff id := by
    unfold ascending
    rw [mem_dropRepeats, List.mem_mergeSort]

/-- An ascending list is its own list of distinct ids. -/
theorem ascending_eq_self
    {ids : List Int}
    (ascends : ids.Pairwise (· < ·)) :
    ascending ids = ids := by
  have sorted : ids.mergeSort = ids := by
    apply List.mergeSort_of_pairwise
    exact ascends.imp fun less => decide_eq_true (Int.le_of_lt less)
  rw [ascending, sorted, dropRepeats_eq_self ascends]

theorem ascending_eq_nil_iff (ids : List Int) : ascending ids = [] ↔ ids = [] := by
  simp only [List.eq_nil_iff_forall_not_mem, (ascending_isAscendingOf ids).mem_iff]

/-- The ids of a block are those between its ends. -/
theorem mem_members (run : Run) (id : Int) :
    id ∈ members run ↔ run.first ≤ id ∧ id ≤ run.last := by
  unfold members
  rw [List.mem_map]
  constructor
  · rintro ⟨offset, inside, rfl⟩
    have := List.mem_range.1 inside
    omega
  · rintro ⟨least, greatest⟩
    refine ⟨(id - run.first).toNat, List.mem_range.2 ?_, ?_⟩ <;> omega

theorem members_self (id : Int) : members ⟨id, id⟩ = [id] := by
  have one : (id + 1 - id).toNat = 1 := by omega
  simp only [members, one, List.range_one, List.map_singleton, Int.natCast_zero, Int.add_zero]

/-- A block that goes on by one id. -/
theorem members_succ
    {first last : Int}
    (ordered : first ≤ last) :
    members ⟨first, last + 1⟩ = members ⟨first, last⟩ ++ [last + 1] := by
  have more : (last + 1 + 1 - first).toNat = (last + 1 - first).toNat + 1 := by omega
  have lastOffset : first + ((last + 1 - first).toNat : Int) = last + 1 := by omega
  simp only [members, more, List.range_succ, List.map_append, List.map_singleton, lastOffset]

/-- The runs that go on from a block have its ids and those that follow. -/
theorem flatMap_members_runsFrom
    {first last : Int}
    (rest : List Int)
    (ordered : first ≤ last) :
    (runsFrom first last rest).flatMap members = members ⟨first, last⟩ ++ rest := by
  -- The block that is under way grows or gives way to another one with every id.
  induction rest generalizing first last with
  | nil => simp [runsFrom]
  | cons id rest inductionHypothesis =>
      rw [runsFrom]
      split
      next follows =>
        subst follows
        rw [inductionHypothesis (by omega), members_succ ordered, List.append_assoc,
          List.singleton_append]
      next apart =>
        rw [List.flatMap_cons, inductionHypothesis (Int.le_refl id), members_self,
          List.singleton_append]

/-- The ids of the runs of a list are the list. -/
theorem flatMap_members_runs (ids : List Int) : (runs ids).flatMap members = ids := by
  cases ids with
  | nil => rfl
  | cons id rest =>
      rw [runs, flatMap_members_runsFrom rest (Int.le_refl id), members_self, List.singleton_append]

/-- The runs that go on from a block are blocks. -/
theorem first_le_last_of_mem_runsFrom
    {first last : Int}
    (rest : List Int)
    (ordered : first ≤ last) :
    ∀ run ∈ runsFrom first last rest, run.first ≤ run.last := by
  induction rest generalizing first last with
  | nil => simpa [runsFrom] using ordered
  | cons id rest inductionHypothesis =>
      rw [runsFrom]
      split
      · exact inductionHypothesis (by omega)
      · rw [List.forall_mem_cons]
        exact ⟨ordered, inductionHypothesis (Int.le_refl id)⟩

/-- Runs are blocks. -/
theorem first_le_last_of_mem_runs
    {ids : List Int}
    {run : Run}
    (member : run ∈ runs ids) :
    run.first ≤ run.last := by
  cases ids with
  | nil => cases member
  | cons id rest => exact first_le_last_of_mem_runsFrom rest (Int.le_refl id) run member

/-- The runs that go on from a block do not start before it. -/
theorem first_le_of_mem_runsFrom
    {first last : Int}
    {rest : List Int}
    (ordered : first ≤ last)
    (ascends : (last :: rest).Pairwise (· < ·)) :
    ∀ run ∈ runsFrom first last rest, first ≤ run.first := by
  induction rest generalizing first last with
  | nil => simp [runsFrom]
  | cons id rest inductionHypothesis =>
      have below := List.rel_of_pairwise_cons ascends (List.mem_cons_self : id ∈ id :: rest)
      rw [runsFrom]
      split
      · exact inductionHypothesis (by omega) ascends.of_cons
      · rw [List.forall_mem_cons]
        refine ⟨Int.le_refl first, fun run member => ?_⟩
        have := inductionHypothesis (Int.le_refl id) ascends.of_cons run member
        omega

/-- Between a run that goes on from a block of an ascending list and the next one, an id is
missing at least. -/
theorem pairwise_apart_runsFrom
    {first last : Int}
    {rest : List Int}
    (ascends : (last :: rest).Pairwise (· < ·)) :
    (runsFrom first last rest).Pairwise fun run next => run.last + 1 < next.first := by
  -- The block under way may grow, so the induction holds for every block that ends before the rest.
  induction rest generalizing first last with
  | nil => exact List.pairwise_singleton _ _
  | cons id rest inductionHypothesis =>
      have below := List.rel_of_pairwise_cons ascends (List.mem_cons_self : id ∈ id :: rest)
      rw [runsFrom]
      split
      · exact inductionHypothesis ascends.of_cons
      next apart =>
        rw [List.pairwise_cons]
        refine ⟨fun run member => ?_, inductionHypothesis ascends.of_cons⟩
        have := first_le_of_mem_runsFrom (Int.le_refl id) ascends.of_cons run member
        show last + 1 < run.first
        omega

/-- Between two runs of an ascending list an id is missing at least. -/
theorem pairwise_apart_runs
    {ids : List Int}
    (ascends : ids.Pairwise (· < ·)) :
    (runs ids).Pairwise fun run next => run.last + 1 < next.first := by
  cases ids with
  | nil => exact List.Pairwise.nil
  | cons id rest => exact pairwise_apart_runsFrom ascends

/-- Some ids have some runs. -/
theorem runs_ascending_ne_nil
    {ids : List Int}
    (nonempty : ids ≠ []) :
    runs (ascending ids) ≠ [] := by
  obtain ⟨id, member⟩ := List.exists_mem_of_ne_nil ids nonempty
  intro noRuns
  have inAscending := ((ascending_isAscendingOf ids).mem_iff id).2 member
  rw [← flatMap_members_runs (ascending ids), noRuns] at inAscending
  cases inAscending

/-- The ids of a run are ids of the list. -/
theorem mem_of_mem_runs
    {ids : List Int}
    {run : Run}
    {id : Int}
    (member : run ∈ runs ids)
    (inside : id ∈ members run) :
    id ∈ ids := by
  rw [← flatMap_members_runs ids, List.mem_flatMap]
  exact ⟨run, member, inside⟩

end TextIds
end Concordance
