import Concordance.Proofs.Numeral.Reading
import Concordance.Proofs.Outcome
import Concordance.Proofs.TextIds.Reading

/-!
# The spelling by runs is canonical

The spelling by runs has the shape of a spelling, and its parts are the maximal blocks of its
ids. Whatever is read are ascending ids that can be written, so a text that is read has the ids
of a spelling by runs, and that spelling is the one it is written with again.
-/

namespace Concordance
namespace TextIds

/-- Whether blocks are maximal: each has an id, and between it and the next one an id is
missing. -/
structure AreMaximal (blocks : List Run) : Prop where
  ordered : ∀ block ∈ blocks, block.first ≤ block.last
  apart : blocks.Pairwise fun block next => block.last + 1 < next.first

/-- The blocks that the parts of a text stand for. -/
def readParts (text : String) : Except ReadingError (List Run) :=
  (Text.splitAt ',' text.toList).mapM readRun

/-- The runs of an ascending list are maximal. -/
theorem areMaximal_runs
    {ids : List Int}
    (ascends : ids.Pairwise (· < ·)) :
    AreMaximal (runs ids) where
  ordered _ := first_le_last_of_mem_runs
  apart := pairwise_apart_runs ascends

/-! ## The shape of the spelling -/

/-- A written natural number is a number. -/
theorem isNumber_spell
    {id : Int}
    (natural : 0 ≤ id) :
    isNumber (Numeral.spell id).toList = true := by
  have decimals : (Numeral.spell id).toList.all Text.isDecimal = true := by
    rw [List.all_eq_true]
    intro character member
    exact Text.isDecimal_of_isDigit (Numeral.isDigit_of_mem_spell natural member)
  unfold isNumber
  rw [decimals, Bool.and_true]
  simp [Numeral.spell_ne_empty]

/-- A written block has the shape of one. -/
theorem isRunShaped_spell
    {run : Run}
    (natural : 0 ≤ run.first)
    (ordered : run.first ≤ run.last) :
    isRunShaped run.spell.toList = true := by
  have lastNatural : 0 ≤ run.last := Int.le_trans natural ordered
  by_cases same : run.first = run.last
  · have alone : Text.splitAt '-' run.spell.toList = [(Numeral.spell run.first).toList] := by
      rw [Run.spell, if_pos same]
      have pieces :=
        @Text.splitAt_intercalate '-' [Numeral.spell run.first] (List.cons_ne_nil _ _)
          (by simpa using dash_not_mem_spell natural)
      simpa using pieces
    simp [isRunShaped, alone, isNumber_spell natural]
  · have pair :
        Text.splitAt '-' run.spell.toList =
          [(Numeral.spell run.first).toList, (Numeral.spell run.last).toList] := by
      rw [Run.spell, if_neg same]
      have pieces :=
        @Text.splitAt_intercalate '-' [Numeral.spell run.first, Numeral.spell run.last]
          (List.cons_ne_nil _ _)
          (by simpa using ⟨dash_not_mem_spell natural, dash_not_mem_spell lastNatural⟩)
      simpa [String.intercalate_cons_cons] using pieces
    simp [isRunShaped, pair, isNumber_spell natural, isNumber_spell lastNatural]

/-- A text without line feeds has none at its end. -/
theorem withoutFinalLineFeed_eq_self
    {text : List Char}
    (clean : '\n' ∉ text) :
    withoutFinalLineFeed text = text := by
  unfold withoutFinalLineFeed
  split
  next rest final =>
    have member : '\n' ∈ text.reverse := final ▸ List.mem_cons_self
    exact absurd (List.mem_reverse.1 member) clean
  next => rfl

section Spelling

variable
  {ids : List Int}
  (nonempty : ids ≠ [])
  (natural : ∀ id ∈ ids, 0 ≤ id)

include nonempty natural

/-- The spelling by runs of some ids has the shape of a spelling. -/
theorem isSpelling_spellRuns : isSpelling (spellRuns ids) = true := by
  have noLineFeed : '\n' ∉ (spellRuns ids).toList := by
    intro member
    exact absurd (isBlank_of_mem_spellRuns member) (by decide)
  unfold isSpelling
  rw [withoutFinalLineFeed_eq_self noLineFeed, splitAt_spellRuns nonempty, List.all_map,
    List.all_eq_true]
  intro run member
  have ordered := first_le_last_of_mem_runs member
  have inRun : run.first ∈ members run := (mem_members run run.first).2 ⟨Int.le_refl _, ordered⟩
  have given := ((ascending_isAscendingOf ids).mem_iff run.first).1 (mem_of_mem_runs member inRun)
  exact isRunShaped_spell (natural run.first given) ordered

/-- The parts of the spelling by runs of some ids stand for their runs. -/
theorem readParts_spellRuns (spellable : ∀ id ∈ ids, Numeral.IsSpellable id) :
    readParts (spellRuns ids) = .ok (runs (ascending ids)) := by
  unfold readParts
  rw [splitAt_spellRuns nonempty,
    mapM_map_eq_ok fun _ => readRun_of_mem_runs natural spellable, List.map_id']

end Spelling

/-! ## What is read can be written -/

/-- A number that is read is natural, and has no more digits than a numeral may have. -/
theorem bounds_of_readId
    {number part : List Char}
    {id : Int}
    (reads : readId number part = .ok id) :
    0 ≤ id ∧ id.natAbs < 10 ^ Numeral.digitLimit := by
  unfold readId at reads
  obtain ⟨digits, readsDigits⟩ := of_guarded_eq_ok reads
  have allSigns : (Text.trim number).all Text.isDigitSign = true := by
    simp only [Bool.or_eq_true, not_or, Bool.not_eq_true, Bool.not_eq_false'] at digits
    exact digits.2
  have unsigned : '-' ∉ (String.ofList (Text.trim number)).toList := by
    rw [String.toList_ofList]
    intro member
    exact absurd (List.all_eq_true.1 allSigns '-' member) (by decide)
  exact Numeral.readInteger_bounds unsigned (mapError_eq_ok_iff.1 readsDigits)

/-- A block that is read starts with a natural number, is in order, and ends with a number of no
more digits than a numeral may have. -/
theorem bounds_of_readRun
    {part : List Char}
    {run : Run}
    (reads : readRun part = .ok run) :
    0 ≤ run.first ∧ run.first ≤ run.last ∧ run.last.natAbs < 10 ^ Numeral.digitLimit := by
  unfold readRun at reads
  split at reads
  · obtain ⟨id, readsId, block⟩ := exists_of_bind_eq_ok reads
    cases block
    obtain ⟨natural, short⟩ := bounds_of_readId readsId
    exact ⟨natural, Int.le_refl id, short⟩
  · obtain ⟨first, readsFirst, others⟩ := exists_of_bind_eq_ok reads
    obtain ⟨last, readsLast, ends⟩ := exists_of_bind_eq_ok others
    obtain ⟨ordered, block⟩ := of_guarded_eq_ok ends
    cases block
    exact ⟨(bounds_of_readId readsFirst).1, Int.not_lt.1 ordered, (bounds_of_readId readsLast).2⟩

/-- The ids that are read ascend, are natural and can be written. -/
theorem readable_of_read
    {text : String}
    {ids : List Int}
    (reads : read text = .ok ids) :
    ids.Pairwise (· < ·) ∧ ∀ id ∈ ids, 0 ≤ id ∧ Numeral.IsSpellable id := by
  unfold read at reads
  simp only at reads
  split at reads
  · cases reads
    exact ⟨List.Pairwise.nil, by simp⟩
  · obtain ⟨blocks, readsBlocks, collected⟩ := exists_of_bind_eq_ok reads
    cases collected
    have ascends := ascending_isAscendingOf (blocks.flatMap members)
    refine ⟨ascends.pairwise_lt, fun id member => ?_⟩
    obtain ⟨block, isBlock, inside⟩ := List.mem_flatMap.1 ((ascends.mem_iff id).1 member)
    obtain ⟨part, _, readsBlock⟩ := exists_of_mem_of_mapM_eq_ok readsBlocks isBlock
    obtain ⟨natural, _, short⟩ := bounds_of_readRun readsBlock
    obtain ⟨least, greatest⟩ := (mem_members block id).1 inside
    have idNatural : 0 ≤ id := Int.le_trans natural least
    have below : id.natAbs ≤ block.last.natAbs := by omega
    have idShort := Nat.lt_of_le_of_lt below short
    exact ⟨idNatural, Numeral.isSpellable_of_natAbs_lt idShort⟩

/-- The spelling by runs is a canonical form. What is written of natural ids is read as the distinct
ones in ascending order; of some ids it has the shape of a spelling, and its parts stand for
maximal blocks that make up the distinct ids. Where a text is read, what is written of its ids is
read as the same ids, and what is written of those is the same text. -/
theorem spelling_by_runs_is_canonical :
    (∀ ids : List Int,
      (∀ id ∈ ids, 0 ≤ id) ->
      (∀ id ∈ ids, Numeral.IsSpellable id) ->
      ∃ distinct,
        read (spellRuns ids) = .ok distinct ∧
        IsAscendingOf distinct ids ∧
        (ids ≠ [] ->
          isSpelling (spellRuns ids) = true ∧
          ∃ blocks,
            readParts (spellRuns ids) = .ok blocks ∧
            AreMaximal blocks ∧
            blocks.flatMap members = distinct)) ∧
    ∀ text ids,
      read text = .ok ids ->
      read (spellRuns ids) = .ok ids ∧
      (read (spellRuns ids)).map spellRuns = .ok (spellRuns ids) := by
  constructor
  · intro ids natural spellable
    have ascends := ascending_isAscendingOf ids
    refine ⟨ascending ids, read_spellRuns natural spellable, ascends, fun nonempty => ?_⟩
    exact ⟨isSpelling_spellRuns nonempty natural, runs (ascending ids),
      readParts_spellRuns nonempty natural spellable, areMaximal_runs ascends.pairwise_lt,
      flatMap_members_runs (ascending ids)⟩
  · intro text ids reads
    obtain ⟨ascends, readable⟩ := readable_of_read reads
    have readBack : read (spellRuns ids) = .ok ids := by
      calc
        read (spellRuns ids)
        _ = .ok (ascending ids) :=
          read_spellRuns (fun id member => (readable id member).1)
            fun id member => (readable id member).2
        _ = .ok ids := by rw [ascending_eq_self ascends]
    refine ⟨readBack, ?_⟩
    rw [readBack]
    rfl

/-- Ids out of order with a repetition are such ids, and a spelling with blanks is such a text. -/
theorem spelling_of_scattered_ids :
    (∃ distinct,
      read (spellRuns [3, 1, 7, 2, 3]) = .ok distinct ∧
      IsAscendingOf distinct [3, 1, 7, 2, 3] ∧
      ([3, 1, 7, 2, 3] ≠ ([] : List Int) ->
        isSpelling (spellRuns [3, 1, 7, 2, 3]) = true ∧
        ∃ blocks,
          readParts (spellRuns [3, 1, 7, 2, 3]) = .ok blocks ∧
          AreMaximal blocks ∧
          blocks.flatMap members = distinct)) ∧
    read (spellRuns [1, 2, 3, 7]) = .ok [1, 2, 3, 7] ∧
    (read (spellRuns [1, 2, 3, 7])).map spellRuns = .ok (spellRuns [1, 2, 3, 7]) := by
  have reads : read " 1 - 3, 7" = .ok [1, 2, 3, 7] := by
    have blocks :
        (Text.splitAt ',' (Text.trim " 1 - 3, 7".toList)).mapM
            (fun part => readRun (Text.trim part)) =
          .ok [⟨1, 3⟩, ⟨7, 7⟩] := by
      decide +kernel
    have ordered : ascending [1, 2, 3, 7] = [1, 2, 3, 7] := ascending_eq_self (by decide)
    unfold read
    simp only [blocks]
    exact congrArg Except.ok ordered
  exact ⟨spelling_by_runs_is_canonical.1 [3, 1, 7, 2, 3] (by decide) (by decide),
    spelling_by_runs_is_canonical.2 " 1 - 3, 7" [1, 2, 3, 7] reads⟩

end TextIds
end Concordance
