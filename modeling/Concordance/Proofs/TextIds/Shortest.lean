import Concordance.Proofs.TextIds.Canonical
import Concordance.Proofs.TextIds.Grammar
import Concordance.Proofs.TextIds.Spelling
import Mathlib.Data.List.Pairwise

/-!
# No spelling is shorter than the one by runs

A part of a text takes no fewer characters than the block it stands for, written out. The blocks
of a text are charged to the runs they lie in: every run has a block that begins where the run
begins and one that ends where it ends, and these two have room for the run, be they one block or
two. A block lies in one run only, so all runs together take no more characters than the blocks,
and the spelling by runs is no longer than any text that is read as the same ids.
-/

namespace Concordance
namespace TextIds

/-- The characters that blocks take when each of them, written out, has a comma behind it. -/
def blocksRoom (blocks : List Run) : Nat :=
  (blocks.map fun block => block.spell.length + 1).sum

/-! ## The length of a block -/

/-- A written block has room for its first id, for its last one, and for no more than the two with
a dash between them. -/
theorem length_spell_bounds (block : Run) :
    (Numeral.spell block.first).length ≤ block.spell.length ∧
    (Numeral.spell block.last).length ≤ block.spell.length ∧
    block.spell.length ≤
      (Numeral.spell block.first).length + 1 + (Numeral.spell block.last).length := by
  unfold Run.spell
  split
  next single =>
    rw [single]
    omega
  next =>
    simp only [String.length_append, show "-".length = 1 from rfl]
    omega

/-- A number is written with no more digits than it is read from. -/
theorem IsNumberOf.length_spell_le
    {text : List Char}
    {id : Int}
    (isNumber : IsNumberOf text id) :
    (Numeral.spell id).length ≤ text.length := by
  have nonempty : 0 < text.length :=
    List.length_pos_of_ne_nil ((isNumber_iff text).1 isNumber.isNumber).1
  rw [isNumber.value_eq, Numeral.spell_natCast]
  exact Nat.repr_length _ _ nonempty (Numeral.digitsValue_lt text)

/-- A part is no shorter than the block it stands for. -/
theorem StandsFor.length_spell_le
    {part : List Char}
    {block : Run}
    (stands : StandsFor part block) :
    block.spell.length ≤ part.length := by
  cases stands with
  | number isNumber =>
      rw [Run.spell, if_pos rfl]
      exact isNumber.length_spell_le
  | @pair before after first last isFirst isLast ordered =>
      have whole := (length_spell_bounds ⟨first, last⟩).2.2
      have firstRoom := isFirst.length_spell_le
      have lastRoom := isLast.length_spell_le
      have beforeTrimmed := Text.length_trim_le before
      have afterTrimmed := Text.length_trim_le after
      rw [List.length_append, List.length_cons]
      simp only at whole
      omega

/-! ## Blocks in runs -/

/-- Whether a run has, among some blocks in it, one that begins where it begins and one that ends
where it ends. -/
structure HasEndsAmong (run : Run) (blocks : List Run) : Prop where
  begins : ∃ block ∈ blocks, block.first = run.first ∧ block.last ≤ run.last
  ends : ∃ block ∈ blocks, block.last = run.last ∧ run.first ≤ block.first

/-- Two different elements of a list weigh no more than the list. -/
theorem add_le_sum_of_mem_of_ne
    {α : Type}
    [DecidableEq α]
    {elements : List α}
    (weight : α -> Nat)
    {first second : α}
    (firstMember : first ∈ elements)
    (secondMember : second ∈ elements)
    (different : first ≠ second) :
    weight first + weight second ≤ (elements.map weight).sum := by
  have others := List.perm_cons_erase firstMember
  have inOthers : second ∈ elements.erase first :=
    (List.mem_erase_of_ne (Ne.symm different)).2 secondMember
  rw [(others.map weight).sum_eq, List.map_cons, List.sum_cons]
  exact Nat.add_le_add_left (List.le_sum_of_mem (List.mem_map_of_mem inOthers)) _

/-- Blocks among which a run has its ends have room for it. -/
theorem HasEndsAmong.length_spell_lt
    {run : Run}
    {blocks : List Run}
    (hasEnds : HasEndsAmong run blocks) :
    run.spell.length + 1 ≤ blocksRoom blocks := by
  obtain ⟨front, frontMember, begins, _⟩ := hasEnds.begins
  obtain ⟨back, backMember, ends, _⟩ := hasEnds.ends
  by_cases same : front = back
  · subst same
    obtain rfl : front = run := by
      cases front
      cases run
      rw [Run.mk.injEq]
      exact ⟨begins, ends⟩
    exact List.le_sum_of_mem (List.mem_map_of_mem frontMember)
  · have both := add_le_sum_of_mem_of_ne (fun block => block.spell.length + 1)
      frontMember backMember same
    have frontRoom := (length_spell_bounds front).1
    have backRoom := (length_spell_bounds back).2.1
    have runRoom := (length_spell_bounds run).2.2
    rw [begins] at frontRoom
    rw [ends] at backRoom
    unfold blocksRoom
    omega

/-- Whether a block begins at one of the ids of a run. -/
def BeginsIn (run block : Run) : Prop :=
  run.first ≤ block.first ∧ block.first ≤ run.last

instance (run : Run) : DecidablePred (BeginsIn run) := fun block =>
  inferInstanceAs (Decidable (run.first ≤ block.first ∧ block.first ≤ run.last))

/-- A run has its ends among the blocks that are left where those that begin in it are kept. -/
theorem HasEndsAmong.filter
    {run : Run}
    {blocks : List Run}
    (keeps : Run -> Prop)
    [DecidablePred keeps]
    (hasEnds : HasEndsAmong run blocks)
    (ordered : ∀ block ∈ blocks, block.first ≤ block.last)
    (kept : ∀ block, BeginsIn run block -> keeps block) :
    HasEndsAmong run (blocks.filter fun block => keeps block) := by
  obtain ⟨front, frontMember, begins, frontInside⟩ := hasEnds.begins
  obtain ⟨back, backMember, ends, backInside⟩ := hasEnds.ends
  have frontOrdered := ordered front frontMember
  have backOrdered := ordered back backMember
  have frontBegins : BeginsIn run front := ⟨by omega, by omega⟩
  have backBegins : BeginsIn run back := ⟨backInside, by omega⟩
  exact ⟨⟨front, List.mem_filter_of_mem frontMember (by simpa using kept front frontBegins),
      begins, frontInside⟩,
    ⟨back, List.mem_filter_of_mem backMember (by simpa using kept back backBegins),
      ends, backInside⟩⟩

/-- Runs that are apart take no more characters than blocks among which each has its ends. -/
theorem blocksRoom_le_of_apart
    {runs blocks : List Run}
    (apart : runs.Pairwise fun run next => run.last + 1 < next.first)
    (ordered : ∀ block ∈ blocks, block.first ≤ block.last)
    (hasEnds : ∀ run ∈ runs, HasEndsAmong run blocks) :
    blocksRoom runs ≤ blocksRoom blocks := by
  -- The blocks that begin in the first run pay for it, the other ones for the other runs.
  induction runs generalizing blocks with
  | nil => exact Nat.zero_le _
  | cons run rest inductionHypothesis =>
      rw [List.forall_mem_cons] at hasEnds
      rw [List.pairwise_cons] at apart
      have runRoom := (hasEnds.1.filter (BeginsIn run) ordered fun _ => id).length_spell_lt
      have restEnds :
          ∀ later ∈ rest, HasEndsAmong later (blocks.filter fun block => ¬BeginsIn run block) := by
        intro later member
        have behind := apart.1 later member
        apply (hasEnds.2 later member).filter _ ordered
        intro block inLater inRun
        have firstInLater := inLater.1
        have firstInRun := inRun.2
        omega
      have restRoom := inductionHypothesis apart.2
        (fun block member => ordered block (List.mem_filter.1 member).1) restEnds
      have split := List.sum_map_filter_add_sum_map_filter_not (BeginsIn run)
        (fun block : Run => block.spell.length + 1) blocks
      unfold blocksRoom at *
      rw [List.map_cons, List.sum_cons, ← split]
      exact Nat.add_le_add runRoom restRoom

/-- Of two maximal blocks that differ, one ends before the other begins, with an id between
them. -/
theorem AreMaximal.eq_or_apart
    {runs : List Run}
    {run other : Run}
    (maximal : AreMaximal runs)
    (isRun : run ∈ runs)
    (isOther : other ∈ runs) :
    run = other ∨ run.last + 1 < other.first ∨ other.last + 1 < run.first := by
  have symmetric : Std.Symm fun run other : Run =>
      run.last + 1 < other.first ∨ other.last + 1 < run.first := ⟨fun _ _ => Or.symm⟩
  have apart : runs.Pairwise fun run other =>
      run.last + 1 < other.first ∨ other.last + 1 < run.first := maximal.apart.imp Or.inl
  by_cases same : run = other
  · exact Or.inl same
  · exact Or.inr (apart.forall isRun isOther same)

/-- A block that has an id in one of some maximal blocks, and all of its ids in some of them, lies
in that one. -/
theorem AreMaximal.inside
    {runs : List Run}
    {run block : Run}
    {id : Int}
    (maximal : AreMaximal runs)
    (isRun : run ∈ runs)
    (inRun : run.first ≤ id ∧ id ≤ run.last)
    (inBlock : block.first ≤ id ∧ id ≤ block.last)
    (covered : ∀ other, block.first ≤ other ∧ other ≤ block.last ->
      ∃ next ∈ runs, next.first ≤ other ∧ other ≤ next.last) :
    run.first ≤ block.first ∧ block.last ≤ run.last := by
  constructor
  · by_contra before
    obtain ⟨next, isNext, inNext⟩ := covered (run.first - 1) (by omega)
    have orderedNext := maximal.ordered next isNext
    rcases maximal.eq_or_apart isNext isRun with rfl | away | away <;> omega
  · by_contra behind
    obtain ⟨next, isNext, inNext⟩ := covered (run.last + 1) (by omega)
    rcases maximal.eq_or_apart isNext isRun with rfl | away | away <;> omega

/-- Maximal blocks take no more characters than any blocks of the same ids. -/
theorem AreMaximal.blocksRoom_le
    {runs blocks : List Run}
    (maximal : AreMaximal runs)
    (ordered : ∀ block ∈ blocks, block.first ≤ block.last)
    (sameIds : ∀ id, id ∈ runs.flatMap members ↔ id ∈ blocks.flatMap members) :
    blocksRoom runs ≤ blocksRoom blocks := by
  simp only [List.mem_flatMap, mem_members] at sameIds
  have inside (run block : Run) (id : Int) (isRun : run ∈ runs) (isBlock : block ∈ blocks)
      (inRun : run.first ≤ id ∧ id ≤ run.last) (inBlock : block.first ≤ id ∧ id ≤ block.last) :
      run.first ≤ block.first ∧ block.last ≤ run.last :=
    maximal.inside isRun inRun inBlock fun other inOther =>
      (sameIds other).2 ⟨block, isBlock, inOther⟩
  apply blocksRoom_le_of_apart maximal.apart ordered
  intro run isRun
  have orderedRun := maximal.ordered run isRun
  constructor
  · obtain ⟨block, isBlock, inBlock⟩ := (sameIds run.first).1 ⟨run, isRun, by omega⟩
    have within := inside run block run.first isRun isBlock (by omega) inBlock
    exact ⟨block, isBlock, by omega, within.2⟩
  · obtain ⟨block, isBlock, inBlock⟩ := (sameIds run.last).1 ⟨run, isRun, by omega⟩
    have within := inside run block run.last isRun isBlock (by omega) inBlock
    exact ⟨block, isBlock, by omega, within.1⟩

/-! ## Texts -/

/-- The blocks that a text is read as take no more characters than the text. -/
theorem blocksRoom_le_of_reads
    {text : String}
    {blocks : List Run}
    (reads : (trimmedParts text).mapM readRun = .ok blocks) :
    blocksRoom blocks ≤ text.length + 1 := by
  rw [trimmedParts, List.mapM_map, mapM_eq_ok_iff] at reads
  have each :
      List.Forall₂ (· ≤ ·) (blocks.map fun block => block.spell.length + 1)
        ((Text.splitAt ',' text.toList).map fun piece => piece.length + 1) := by
    rw [List.forall₂_map_left_iff, List.forall₂_map_right_iff]
    refine (reads.imp fun piece block readsBlock => ?_).flip
    have stands := (readRun_eq_ok_iff (Text.trim_trim piece)).1 readsBlock
    exact Nat.succ_le_succ (Nat.le_trans stands.length_spell_le (Text.length_trim_le piece))
  calc
    blocksRoom blocks
    _ ≤ ((Text.splitAt ',' text.toList).map fun piece => piece.length + 1).sum := each.sum_le_sum
    _ = text.length + 1 := by rw [Text.sum_length_splitAt, String.length_toList]

/-- The spelling by runs is no longer than any text that is read as its ids. -/
theorem length_spellRuns_le_of_read
    {ids decoded : List Int}
    {text : String}
    (reads : read text = .ok decoded)
    (sameIds : ∀ id, id ∈ decoded ↔ id ∈ ids) :
    (spellRuns ids).length ≤ text.length := by
  by_cases empty : ids = []
  · subst empty
    simp [spellRuns]
  · have written : ¬∀ character ∈ text.toList, Text.isBlank character = true := by
      intro blank
      rw [read_of_isBlank blank] at reads
      cases reads
      obtain ⟨id, member⟩ := List.exists_mem_of_ne_nil ids empty
      cases (sameIds id).2 member
    rw [read_of_not_isBlank written] at reads
    obtain ⟨blocks, readsBlocks, collected⟩ := exists_of_bind_eq_ok reads
    cases collected
    have ordered : ∀ block ∈ blocks, block.first ≤ block.last := by
      intro block isBlock
      obtain ⟨part, member, readsBlock⟩ := exists_of_mem_of_mapM_eq_ok readsBlocks isBlock
      exact ((readRun_eq_ok_iff (trim_of_mem_trimmedParts member)).1 readsBlock).first_le_last
    have maximal := areMaximal_runs (ascending_isAscendingOf ids).pairwise_lt
    have sameMembers (id : Int) :
        id ∈ (runs (ascending ids)).flatMap members ↔ id ∈ blocks.flatMap members := by
      rw [flatMap_members_runs, (ascending_isAscendingOf ids).mem_iff, ← sameIds,
        (ascending_isAscendingOf _).mem_iff]
    apply Nat.le_of_succ_le_succ
    calc
      (spellRuns ids).length + 1
      _ = blocksRoom (runs (ascending ids)) := length_spellRuns empty
      _ ≤ blocksRoom blocks := maximal.blocksRoom_le ordered sameMembers
      _ ≤ text.length + 1 := blocksRoom_le_of_reads readsBlocks

/-- The spelling by runs is the shortest one. It is no longer than any text that is read as its
ids. Some ids are always spelled by runs, as maximal blocks that make up the distinct ids in
ascending order, and this takes no more characters than the ids one by one. -/
theorem spelling_by_runs_is_shortest :
    (∀ (ids decoded : List Int) (text : String),
      read text = .ok decoded ->
      (∀ id, id ∈ decoded ↔ id ∈ ids) ->
      (spellRuns ids).length ≤ text.length) ∧
    ∀ ids : List Int,
      ids ≠ [] ->
      prefersRuns ids = true ∧
      spell ids = spellRuns ids ∧
      (∃ blocks,
        AreMaximal blocks ∧
        IsAscendingOf (blocks.flatMap members) ids ∧
        spell ids = ",".intercalate (blocks.map Run.spell)) ∧
      (spell ids).length ≤ (spellEach ids).length := by
  refine ⟨fun ids decoded text => length_spellRuns_le_of_read, fun ids nonempty => ?_⟩
  have ascends := ascending_isAscendingOf ids
  have byRuns := spell_eq_spellRuns ids
  refine ⟨prefersRuns_of_ne_nil nonempty, byRuns,
    ⟨runs (ascending ids), areMaximal_runs ascends.pairwise_lt, ?_, byRuns⟩, ?_⟩
  · rw [flatMap_members_runs]
    exact ascends
  · rw [byRuns]
    exact length_spellRuns_le nonempty

/-- A text with a split run, a leading zero and a digit of another script is no shorter. -/
theorem spelling_of_split_run_is_shortest :
    (∃ decoded,
      read "1,2-3, ٠7" = .ok decoded ∧
      (spellRuns [7, 3, 1, 2, 3]).length ≤ "1,2-3, ٠7".length) ∧
    prefersRuns [7, 3, 1, 2, 3] = true := by
  have reads : read "1,2-3, ٠7" = .ok [1, 2, 3, 7] := by
    have blocks :
        (trimmedParts "1,2-3, ٠7").mapM readRun = .ok [⟨1, 1⟩, ⟨2, 3⟩, ⟨7, 7⟩] := by
      decide +kernel
    have ordered : ascending [1, 2, 3, 7] = [1, 2, 3, 7] := ascending_eq_self (by decide)
    have written : ¬∀ character ∈ "1,2-3, ٠7".toList, Text.isBlank character = true :=
      fun blank => absurd (blank '1' (by decide)) (by decide)
    rw [read_of_not_isBlank written, blocks]
    exact congrArg Except.ok ordered
  have sameIds (id : Int) : id ∈ [1, 2, 3, 7] ↔ id ∈ [7, 3, 1, 2, 3] := by
    simp only [List.mem_cons, List.not_mem_nil]
    grind
  exact ⟨⟨_, reads, spelling_by_runs_is_shortest.1 _ _ _ reads sameIds⟩,
    (spelling_by_runs_is_shortest.2 [7, 3, 1, 2, 3] (by decide)).1⟩

end TextIds
end Concordance
