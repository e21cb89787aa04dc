import Concordance.Proofs.Outcome
import Concordance.Proofs.Text.Pieces
import Concordance.Proofs.TextIds.Runs

/-!
# Spelled text ids are read back

A written number is read as an id, a written run as its block, and so the spelling by runs of a
list of ids is read as its distinct ids in ascending order.
-/

namespace Concordance
namespace TextIds

theorem dash_not_mem_spell
    {id : Int}
    (natural : 0 ≤ id) :
    '-' ∉ (Numeral.spell id).toList := by
  intro member
  exact absurd (Numeral.isDigit_of_mem_spell natural member) (by decide)

/-- A written natural number is read as an id. -/
theorem readId_spell
    {id : Int}
    (part : List Char)
    (natural : 0 ≤ id)
    (spellable : Numeral.IsSpellable id) :
    readId (Numeral.spell id).toList part = .ok id := by
  have trimmed : Text.trim (Numeral.spell id).toList = (Numeral.spell id).toList :=
    Text.trim_eq_self fun _ => Numeral.isBlank_of_mem_spell
  have nonempty : (Numeral.spell id).toList.isEmpty = false := by
    simp [Numeral.spell_ne_empty]
  have allSigns : (Numeral.spell id).toList.all Text.isDigitSign = true := by
    rw [List.all_eq_true]
    intro character member
    exact Text.isDigitSign_of_isDigit (Numeral.isDigit_of_mem_spell natural member)
  unfold readId
  simp only [trimmed, nonempty, allSigns, String.ofList_toList, Numeral.readInteger_spell spellable]
  rfl

/-- A written block is read as the block. -/
theorem readRun_spell
    {run : Run}
    (natural : 0 ≤ run.first)
    (ordered : run.first ≤ run.last)
    (firstSpellable : Numeral.IsSpellable run.first)
    (lastSpellable : Numeral.IsSpellable run.last) :
    readRun run.spell.toList = .ok run := by
  obtain ⟨first, last⟩ := run
  simp only at natural ordered firstSpellable lastSpellable
  have noDash := dash_not_mem_spell natural
  unfold Run.spell readRun
  by_cases same : first = last
  · subst same
    simp only [if_true, Text.cutFirst_of_not_mem noDash,
      readId_spell _ natural firstSpellable]
    rfl
  · have cut :
        Text.cutFirst '-' (Numeral.spell first ++ "-" ++ Numeral.spell last).toList =
          some ((Numeral.spell first).toList, (Numeral.spell last).toList) := by
      rw [String.toList_append, String.toList_append, List.append_assoc]
      exact Text.cutFirst_append _ noDash
    have lastNatural : 0 ≤ last := by omega
    simp only [if_neg same, cut, readId_spell _ natural firstSpellable,
      readId_spell _ lastNatural lastSpellable, bind, Except.bind, if_neg (Int.not_lt.2 ordered)]
    rfl

section Runs

variable
  {ids : List Int}
  (natural : ∀ id ∈ ids, 0 ≤ id)
  (spellable : ∀ id ∈ ids, Numeral.IsSpellable id)

include natural spellable

/-- The runs of ids that can be written and read are read back. -/
theorem readRun_of_mem_runs
    {run : Run}
    (member : run ∈ runs (ascending ids)) :
    readRun run.spell.toList = .ok run := by
  have ordered := first_le_last_of_mem_runs member
  have given (id : Int) (inside : id ∈ members run) : id ∈ ids :=
    ((ascending_isAscendingOf ids).mem_iff id).1 (mem_of_mem_runs member inside)
  have firstGiven := given run.first ((mem_members run run.first).2 ⟨Int.le_refl _, ordered⟩)
  have lastGiven := given run.last ((mem_members run run.last).2 ⟨ordered, Int.le_refl _⟩)
  exact readRun_spell (natural _ firstGiven) ordered (spellable _ firstGiven)
    (spellable _ lastGiven)

end Runs

theorem toList_spell_run_ne_nil (run : Run) : run.spell.toList ≠ [] := by
  rw [ne_eq, String.toList_eq_nil_iff]
  unfold Run.spell
  split
  · exact Numeral.spell_ne_empty run.first
  · simp

/-- A written run has no blanks. -/
theorem isBlank_of_mem_spell_run
    {run : Run}
    {character : Char}
    (member : character ∈ run.spell.toList) :
    Text.isBlank character = false := by
  unfold Run.spell at member
  split at member
  · exact Numeral.isBlank_of_mem_spell member
  · simp only [String.toList_append, List.mem_append] at member
    rcases member with (inFirst | dash) | inLast
    · exact Numeral.isBlank_of_mem_spell inFirst
    · rw [List.mem_singleton.1 dash]
      decide
    · exact Numeral.isBlank_of_mem_spell inLast

/-- A written run has no comma. -/
theorem comma_not_mem_spell_run (run : Run) : ',' ∉ run.spell.toList := by
  have noComma (number : Int) : ',' ∉ (Numeral.spell number).toList := by
    intro member
    rcases Numeral.isDigit_or_eq_of_mem_spell member with digit | ⟨minus, _⟩
    · exact absurd digit (by decide)
    · exact absurd minus (by decide)
  unfold Run.spell
  split
  · exact noComma _
  · simp [noComma]

theorem spellRuns_eq_intercalate (ids : List Int) :
    spellRuns ids =
      (String.singleton ',').intercalate ((runs (ascending ids)).map Run.spell) := rfl

/-- The spelling by runs has no blanks. -/
theorem isBlank_of_mem_spellRuns
    {ids : List Int}
    {character : Char}
    (member : character ∈ (spellRuns ids).toList) :
    Text.isBlank character = false := by
  rw [spellRuns_eq_intercalate, Text.mem_intercalate_iff] at member
  rcases member with ⟨piece, written, inside⟩ | ⟨rfl, _⟩
  · obtain ⟨run, _, rfl⟩ := List.mem_map.1 written
    exact isBlank_of_mem_spell_run inside
  · decide

/-- The pieces of the spelling by runs of some ids are their written runs. -/
theorem splitAt_spellRuns
    {ids : List Int}
    (nonempty : ids ≠ []) :
    Text.splitAt ',' (spellRuns ids).toList =
      (runs (ascending ids)).map fun run => run.spell.toList := by
  calc
    Text.splitAt ',' (spellRuns ids).toList
    _ = ((runs (ascending ids)).map Run.spell).map String.toList := by
      rw [spellRuns_eq_intercalate]
      apply Text.splitAt_intercalate
      · exact mt List.map_eq_nil_iff.1 (runs_ascending_ne_nil nonempty)
      · exact List.forall_mem_map.2 fun run _ => comma_not_mem_spell_run run
    _ = (runs (ascending ids)).map fun run => run.spell.toList := List.map_map

/-- The spelling by runs of some ids is not empty. -/
theorem toList_spellRuns_ne_nil
    {ids : List Int}
    (nonempty : ids ≠ []) :
    (spellRuns ids).toList ≠ [] := by
  intro nothing
  have pieces := splitAt_spellRuns nonempty
  rw [nothing, Text.splitAt_nil] at pieces
  obtain ⟨run, _, noText⟩ := List.mem_map.1 (pieces ▸ List.mem_singleton_self [])
  exact toList_spell_run_ne_nil run noText

/-- The spelling by runs is read as the distinct ids in ascending order. -/
theorem read_spellRuns
    {ids : List Int}
    (natural : ∀ id ∈ ids, 0 ≤ id)
    (spellable : ∀ id ∈ ids, Numeral.IsSpellable id) :
    read (spellRuns ids) = .ok (ascending ids) := by
  by_cases empty : ids = []
  · subst empty
    simp [spellRuns, read]
  · have trimmed : Text.trim (spellRuns ids).toList = (spellRuns ids).toList :=
      Text.trim_eq_self fun _ => isBlank_of_mem_spellRuns
    have nonempty : (spellRuns ids).toList.isEmpty = false := by
      rw [← Bool.not_eq_true, List.isEmpty_iff]
      exact toList_spellRuns_ne_nil empty
    have blocks :
        ((runs (ascending ids)).map fun run => run.spell.toList).mapM
            (fun part => readRun (Text.trim part)) =
          .ok ((runs (ascending ids)).map id) := by
      apply mapM_map_eq_ok
      intro run member
      rw [Text.trim_eq_self fun _ => isBlank_of_mem_spell_run]
      exact readRun_of_mem_runs natural spellable member
    unfold read
    simp only [trimmed, nonempty, splitAt_spellRuns empty, blocks, List.map_id,
      Bool.false_eq_true, if_false]
    show Except.ok (ascending ((runs (ascending ids)).flatMap members)) = _
    rw [flatMap_members_runs, ascending_eq_self (ascending_isAscendingOf ids).pairwise_lt]

/-- Without a dash in the spelling by runs every run is a single id. -/
theorem first_eq_last_of_no_dash
    {ids : List Int}
    {run : Run}
    (noDash : '-' ∉ (spellRuns ids).toList)
    (member : run ∈ runs (ascending ids)) :
    run.first = run.last := by
  by_cases same : run.first = run.last
  · exact same
  · have dashInRun : '-' ∈ run.spell.toList := by
      simp [Run.spell, same]
    rw [spellRuns_eq_intercalate, Text.mem_intercalate_iff] at noDash
    exact absurd (Or.inl ⟨run.spell, List.mem_map_of_mem member, dashInRun⟩) noDash

/-- Where every run is a single id, the runs are the ids. -/
theorem map_first_runs
    {ids : List Int}
    (single : ∀ run ∈ runs ids, run.first = run.last) :
    (runs ids).map Run.first = ids := by
  calc
    (runs ids).map Run.first
    _ = (runs ids).flatMap fun run => [run.first] := List.map_eq_flatMap
    _ = (runs ids).flatMap members := by
      apply List.flatMap_congr
      intro run member
      obtain ⟨first, last⟩ := run
      obtain rfl : first = last := single _ member
      exact (members_self first).symm
    _ = ids := flatMap_members_runs ids

end TextIds
end Concordance
