import Concordance.Proofs.TextIds.Runs
import Mathlib.Algebra.Order.BigOperators.Group.List
import Mathlib.Algebra.Order.Ring.Nat

/-!
# The spelling by runs is the shorter one

A run is written in no more characters than its ids with a comma between them, and the distinct
ids take no more characters than the given ones. So the spelling by runs is never the longer
one, and it is the one that is sent.
-/

namespace Concordance

/-- The characters that ids take when each has a comma behind it. -/
def TextIds.room (ids : List Int) : Nat :=
  (ids.map fun id => (Numeral.spell id).length + 1).sum

/-- The ends of a block of several ids are two of its ids. -/
theorem TextIds.ends_sublist_members
    {first last : Int}
    (ordered : first < last) :
    [first, last].Sublist (members ⟨first, last⟩) := by
  have whole : members ⟨first, last⟩ = members ⟨first, last - 1⟩ ++ [last] := by
    rw [← Int.sub_add_cancel last 1, members_succ (by omega), Int.sub_add_cancel]
  have firstMember : first ∈ members ⟨first, last - 1⟩ := by
    rw [mem_members]
    simp only
    omega
  rw [whole]
  exact (List.singleton_sublist.2 firstMember).append (List.Sublist.refl [last])

/-- A block takes no more characters than its ids. -/
theorem Run.length_spell_lt_room
    (run : Run)
    (ordered : run.first ≤ run.last) :
    run.spell.length + 1 ≤ TextIds.room (TextIds.members run) := by
  obtain ⟨first, last⟩ := run
  rw [Run.spell]
  split
  next same =>
    simp only at same
    subst same
    simp [TextIds.members_self, TextIds.room]
  next different =>
    simp only at different ordered ⊢
    have ends := TextIds.ends_sublist_members (lt_of_le_of_ne ordered different)
    have roomOfEnds := (ends.map fun id => (Numeral.spell id).length + 1).sum_le_sum (by simp)
    simp only [List.map_cons, List.map_nil, List.sum_cons, List.sum_nil] at roomOfEnds
    simp only [String.length_append, show "-".length = 1 from rfl, TextIds.room]
    omega

namespace TextIds

/-- The characters of texts with commas between them. -/
theorem length_intercalate_comma
    {pieces : List String}
    (nonempty : pieces ≠ []) :
    (",".intercalate pieces).length + 1 = (pieces.map fun piece => piece.length + 1).sum := by
  induction pieces with
  | nil => exact absurd rfl nonempty
  | cons piece rest inductionHypothesis =>
      cases rest with
      | nil => simp
      | cons next others =>
          rw [String.intercalate_cons_cons, List.map_cons, List.sum_cons,
            ← inductionHypothesis (List.cons_ne_nil next others)]
          simp only [String.length_append, show ",".length = 1 from rfl]
          omega

theorem room_ascending_le (ids : List Int) : room (ascending ids) ≤ room ids := by
  have same : room ids.mergeSort = room ids :=
    ((List.mergeSort_perm ids _).map _).sum_eq
  rw [← same]
  exact ((dropRepeats_sublist _).map _).sum_le_sum (by simp)

/-- Runs take no more characters than their ids. -/
theorem room_runs_le
    (runs : List Run)
    (ordered : ∀ run ∈ runs, run.first ≤ run.last) :
    (runs.map fun run => run.spell.length + 1).sum ≤ room (runs.flatMap members) := by
  induction runs with
  | nil => simp
  | cons run rest inductionHypothesis =>
      rw [List.forall_mem_cons] at ordered
      have head := run.length_spell_lt_room ordered.1
      have tail := inductionHypothesis ordered.2
      unfold room at *
      rw [List.map_cons, List.sum_cons, List.flatMap_cons, List.map_append, List.sum_append]
      omega

/-- The characters of the spelling by runs are those of the written runs with commas between
them. -/
theorem length_spellRuns
    {ids : List Int}
    (nonempty : ids ≠ []) :
    (spellRuns ids).length + 1 =
      ((runs (ascending ids)).map fun run => run.spell.length + 1).sum := by
  have someRun : (runs (ascending ids)).map Run.spell ≠ [] :=
    mt List.map_eq_nil_iff.1 (runs_ascending_ne_nil nonempty)
  rw [spellRuns, length_intercalate_comma someRun, List.map_map]
  rfl

/-- The spelling by runs is never the longer one. -/
theorem length_spellRuns_le
    {ids : List Int}
    (nonempty : ids ≠ []) :
    (spellRuns ids).length ≤ (spellEach ids).length := by
  have someId : ids.map Numeral.spell ≠ [] := mt List.map_eq_nil_iff.1 nonempty
  apply Nat.le_of_succ_le_succ
  calc
    (spellRuns ids).length + 1
    _ = ((runs (ascending ids)).map fun run => run.spell.length + 1).sum :=
      length_spellRuns nonempty
    _ ≤ room ((runs (ascending ids)).flatMap members) :=
      room_runs_le _ fun _ => first_le_last_of_mem_runs
    _ = room (ascending ids) := by rw [flatMap_members_runs]
    _ ≤ room ids := room_ascending_le ids
    _ = (spellEach ids).length + 1 := by
      rw [spellEach, length_intercalate_comma someId, List.map_map]
      rfl

theorem prefersRuns_of_ne_nil
    {ids : List Int}
    (nonempty : ids ≠ []) :
    prefersRuns ids = true := by
  simp [prefersRuns, nonempty, length_spellRuns_le nonempty]

/-- Ids are spelled by runs. -/
theorem spell_eq_spellRuns (ids : List Int) : spell ids = spellRuns ids := by
  unfold spell
  by_cases empty : ids = []
  · subst empty
    simp [prefersRuns, spellRuns, spellEach]
  · rw [if_pos (prefersRuns_of_ne_nil empty)]

theorem spell_ascending (ids : List Int) : spell (ascending ids) = spell ids := by
  rw [spell_eq_spellRuns, spell_eq_spellRuns, spellRuns,
    ascending_eq_self (ascending_isAscendingOf ids).pairwise_lt, spellRuns]

end TextIds
end Concordance
