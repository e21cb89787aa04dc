import Concordance.Proofs.Numeral.Reading
import Concordance.Proofs.TextIds.Reading

/-!
# The grammar of spelled text ids

A text is cut at its commas, and each part, without the blanks around it, has to be some decimal
digits of any script, or digits on both sides of a dash in ascending order, with blanks allowed
around the dash. These are the texts that are read, and what is read are the ids between the ends
of the parts, each of them once and in ascending order.

Digit signs that are no decimal digits, signs, underscores and second dashes are in no part; each
of the layers that read a part refuses some of them.
-/

namespace Concordance
namespace TextIds

/-- Whether a text is some decimal digits of a value, and not more of them than a numeral may
have. -/
structure IsNumberOf (text : List Char) (id : Int) : Prop where
  isNumber : isNumber text = true
  short : text.length ≤ Numeral.digitLimit
  value_eq : id = Numeral.digitsValue text

/-- The block that a part stands for: digits stand for one id, and digits on both sides of a dash,
with blanks allowed around them, for the ids from the first to the second. -/
inductive StandsFor : List Char -> Run -> Prop
  | number {digits : List Char} {id : Int} :
      IsNumberOf digits id ->
      StandsFor digits ⟨id, id⟩
  | pair {before after : List Char} {first last : Int} :
      IsNumberOf (Text.trim before) first ->
      IsNumberOf (Text.trim after) last ->
      first ≤ last ->
      StandsFor (before ++ '-' :: after) ⟨first, last⟩

/-- The parts of a text between its commas, without the blanks around them. -/
def trimmedParts (text : String) : List (List Char) :=
  (Text.splitAt ',' text.toList).map Text.trim

/-- Whether every part of a text stands for a block. -/
def InGrammar (text : String) : Prop :=
  ∀ part ∈ trimmedParts text, ∃ block, StandsFor part block

/-! ## Numbers -/

theorem isNumber_iff (text : List Char) :
    isNumber text = true ↔
      text ≠ [] ∧ ∀ character ∈ text, Text.isDecimal character = true := by
  simp [isNumber]

/-- Digits are no dash. -/
theorem dash_not_mem_of_isNumber
    {text : List Char}
    (number : isNumber text = true) :
    '-' ∉ text := by
  intro member
  have decimal := ((isNumber_iff text).1 number).2 '-' member
  exact absurd decimal (by decide)

/-- A number without blanks around it is read as an id exactly where it is decimal digits, and it
is read as their value. -/
theorem readId_eq_ok_iff
    (number part : List Char)
    (id : Int) :
    readId number part = .ok id ↔ IsNumberOf (Text.trim number) id := by
  constructor
  · intro reads
    unfold readId at reads
    obtain ⟨digits, readsDigits⟩ := of_guarded_eq_ok reads
    simp only [Bool.or_eq_true, not_or, Bool.not_eq_true, Bool.not_eq_false',
      List.all_eq_true] at digits
    have readsInteger := mapError_eq_ok_iff.1 readsDigits
    obtain ⟨nonempty, decimals, short, value_eq⟩ :=
      (Numeral.readInteger_eq_ok_iff digits.2).1 readsInteger
    exact ⟨(isNumber_iff _).2 ⟨nonempty, decimals⟩, short, value_eq⟩
  · rintro ⟨isNumber, short, value_eq⟩
    obtain ⟨nonempty, decimals⟩ := (isNumber_iff _).1 isNumber
    have signs : ∀ character ∈ Text.trim number, Text.isDigitSign character = true :=
      fun character member => Text.isDigitSign_of_isDecimal (decimals character member)
    have reads : Numeral.readInteger (String.ofList (Text.trim number)) = .ok id :=
      (Numeral.readInteger_eq_ok_iff signs).2 ⟨nonempty, decimals, short, value_eq⟩
    have guarded :
        ¬((Text.trim number).isEmpty || !(Text.trim number).all Text.isDigitSign) = true := by
      simpa [nonempty] using signs
    unfold readId
    simp only [if_neg guarded, reads]
    rfl

/-! ## Parts -/

/-- Two numbers around a dash are read as the block from the first to the second, or refused where
the second is the smaller one. -/
theorem readRun_pair
    {before after : List Char}
    {first last : Int}
    (isFirst : IsNumberOf (Text.trim before) first)
    (isLast : IsNumberOf (Text.trim after) last) :
    readRun (before ++ '-' :: after) =
      if last < first then .error (.descending (String.ofList (before ++ '-' :: after)))
      else .ok ⟨first, last⟩ := by
  have noDash : '-' ∉ before :=
    mt (Text.mem_trim_of_not_isBlank (by decide)) (dash_not_mem_of_isNumber isFirst.isNumber)
  unfold readRun
  simp only [Text.cutFirst_append after noDash, (readId_eq_ok_iff before _ first).2 isFirst,
    (readId_eq_ok_iff after _ last).2 isLast, ok_bind]
  split <;> rfl

/-- A part without blanks around it is read as a block exactly where it stands for it. -/
theorem readRun_eq_ok_iff
    {part : List Char}
    {block : Run}
    (trimmed : Text.trim part = part) :
    readRun part = .ok block ↔ StandsFor part block := by
  constructor
  · intro reads
    unfold readRun at reads
    split at reads
    next uncut =>
      obtain ⟨id, readsId, single⟩ := exists_of_bind_eq_ok reads
      cases single
      have isNumber := (readId_eq_ok_iff part part id).1 readsId
      rw [trimmed] at isNumber
      exact .number isNumber
    next before after cut =>
      obtain ⟨first, readsFirst, others⟩ := exists_of_bind_eq_ok reads
      obtain ⟨last, readsLast, ends⟩ := exists_of_bind_eq_ok others
      obtain ⟨ordered, pair⟩ := of_guarded_eq_ok ends
      cases pair
      rw [Text.eq_append_of_cutFirst cut]
      exact .pair ((readId_eq_ok_iff before part first).1 readsFirst)
        ((readId_eq_ok_iff after part last).1 readsLast) (Int.not_lt.1 ordered)
  · intro stands
    cases stands with
    | number isNumber =>
        have noDash := dash_not_mem_of_isNumber isNumber.isNumber
        rw [← trimmed] at isNumber
        rw [readRun, Text.cutFirst_of_not_mem noDash, (readId_eq_ok_iff _ _ _).2 isNumber]
        rfl
    | pair isFirst isLast ordered =>
        rw [readRun_pair isFirst isLast, if_neg (Int.not_lt.2 ordered)]

/-- The parts of a text have no blanks around them. -/
theorem trim_of_mem_trimmedParts
    {text : String}
    {part : List Char}
    (member : part ∈ trimmedParts text) :
    Text.trim part = part := by
  obtain ⟨piece, _, rfl⟩ := List.mem_map.1 member
  exact Text.trim_trim piece

/-- A part stands for a block in order. -/
theorem StandsFor.first_le_last
    {part : List Char}
    {block : Run}
    (stands : StandsFor part block) :
    block.first ≤ block.last := by
  cases stands with
  | number => exact Int.le_refl _
  | pair _ _ ordered => exact ordered

/-! ## Texts -/

theorem trimmedParts_ne_nil (text : String) : trimmedParts text ≠ [] := by
  rw [trimmedParts, Text.splitAt_eq_splitOn]
  simp

theorem read_of_isBlank
    {text : String}
    (blank : ∀ character ∈ text.toList, Text.isBlank character = true) :
    read text = .ok [] := by
  unfold read
  simp [(Text.trim_eq_nil_iff _).2 blank]

/-- Of any other text the parts are read, and their ids are put in order. -/
theorem read_of_not_isBlank
    {text : String}
    (written : ¬∀ character ∈ text.toList, Text.isBlank character = true) :
    read text =
      (trimmedParts text).mapM readRun >>= fun blocks =>
        .ok (ascending (blocks.flatMap members)) := by
  have nonempty : (Text.trim text.toList).isEmpty = false := by
    rw [← Bool.not_eq_true, List.isEmpty_iff, Text.trim_eq_nil_iff]
    exact written
  have sameParts :
      (Text.splitAt ',' (Text.trim text.toList)).map Text.trim = trimmedParts text :=
    Text.map_trim_splitAt_trim (by decide) text.toList
  unfold read
  simp only [nonempty, Bool.false_eq_true, if_false, ← sameParts, List.mapM_map]
  rfl

section Written

variable
  {text : String}
  (written : ¬∀ character ∈ text.toList, Text.isBlank character = true)

include written

/-- A text that is not blank is read exactly where all of its parts are. -/
theorem exists_read_eq_ok_iff : (∃ ids, read text = .ok ids) ↔ InGrammar text := by
  have everyPart :
      (∃ blocks, (trimmedParts text).mapM readRun = .ok blocks) ↔ InGrammar text := by
    rw [exists_mapM_eq_ok_iff]
    refine forall₂_congr fun part member => exists_congr fun block => ?_
    exact readRun_eq_ok_iff (trim_of_mem_trimmedParts member)
  rw [← everyPart, read_of_not_isBlank written]
  constructor
  · rintro ⟨ids, reads⟩
    obtain ⟨blocks, readsBlocks, _⟩ := exists_of_bind_eq_ok reads
    exact ⟨blocks, readsBlocks⟩
  · rintro ⟨blocks, readsBlocks⟩
    rw [readsBlocks]
    exact ⟨_, rfl⟩

/-- The ids that are read ascend, and they are those of the blocks of the parts. -/
theorem mem_iff_of_read
    {ids : List Int}
    (reads : read text = .ok ids) :
    ids.Pairwise (· < ·) ∧
      ∀ id,
        id ∈ ids ↔
          ∃ part ∈ trimmedParts text, ∃ block,
            StandsFor part block ∧ block.first ≤ id ∧ id ≤ block.last := by
  rw [read_of_not_isBlank written] at reads
  obtain ⟨blocks, readsBlocks, collected⟩ := exists_of_bind_eq_ok reads
  cases collected
  have ascends := ascending_isAscendingOf (blocks.flatMap members)
  refine ⟨ascends.pairwise_lt, fun id => ?_⟩
  rw [ascends.mem_iff, List.mem_flatMap]
  simp only [mem_members]
  constructor
  · rintro ⟨block, isBlock, inside⟩
    obtain ⟨part, member, readsBlock⟩ := exists_of_mem_of_mapM_eq_ok readsBlocks isBlock
    have trimmed := trim_of_mem_trimmedParts member
    exact ⟨part, member, block, (readRun_eq_ok_iff trimmed).1 readsBlock, inside⟩
  · rintro ⟨part, member, block, stands, inside⟩
    have readsBlock := (readRun_eq_ok_iff (trim_of_mem_trimmedParts member)).2 stands
    exact ⟨block, mem_of_mapM_eq_ok readsBlocks member readsBlock, inside⟩

/-- A text is refused as one of its parts is. -/
theorem exists_part_of_read_eq_error
    {cause : ReadingError}
    (fails : read text = .error cause) :
    ∃ part ∈ trimmedParts text, readRun part = .error cause := by
  rw [read_of_not_isBlank written] at fails
  rcases eq_or_exists_of_bind_eq_error fails with partFails | ⟨_, _, collected⟩
  · exact exists_of_mapM_eq_error partFails
  · cases collected

end Written

/-- Exactly the texts of the grammar are read. A blank text stands for no ids. Any other text is
read where every part of it stands for a block and is refused otherwise; the ids that are read
ascend, and they are those that lie in the block of one of the parts. -/
theorem exactly_the_grammar_is_read (text : String) :
    ((∀ character ∈ text.toList, Text.isBlank character = true) ->
      read text = .ok []) ∧
    ((¬∀ character ∈ text.toList, Text.isBlank character = true) ->
      ((∃ ids, read text = .ok ids) ↔ InGrammar text) ∧
      ((∃ cause, read text = .error cause) ↔ ¬InGrammar text) ∧
      ∀ ids, read text = .ok ids ->
        ids.Pairwise (· < ·) ∧
        ∀ id,
          id ∈ ids ↔
            ∃ part ∈ trimmedParts text, ∃ block,
              StandsFor part block ∧ block.first ≤ id ∧ id ≤ block.last) := by
  refine ⟨read_of_isBlank, fun written => ?_⟩
  have accepted := exists_read_eq_ok_iff written
  refine ⟨accepted, ?_, fun ids => mem_iff_of_read written⟩
  rw [← accepted]
  cases read text with
  | error cause => simp
  | ok ids => simp

/-- Digits of two scripts with blanks around them are read; a raised digit is refused. -/
theorem digits_of_scripts_are_read :
    (∃ ids, read " ٣ - 5,1" = .ok ids ∧ ids.Pairwise (· < ·) ∧ 4 ∈ ids) ∧
    ∃ cause, read "1²" = .error cause := by
  constructor
  · have written : ¬∀ character ∈ " ٣ - 5,1".toList, Text.isBlank character = true :=
      fun blank => absurd (blank '1' (by decide)) (by decide)
    obtain ⟨accepted, _, contents⟩ := (exactly_the_grammar_is_read " ٣ - 5,1").2 written
    have stands : StandsFor "٣ - 5".toList ⟨3, 5⟩ := by
      have first : IsNumberOf (Text.trim ['٣', ' ']) 3 := ⟨by decide, by decide, by decide⟩
      have last : IsNumberOf (Text.trim [' ', '5']) 5 := ⟨by decide, by decide, by decide⟩
      exact .pair first last (by decide)
    have single : StandsFor "1".toList ⟨1, 1⟩ := .number ⟨by decide, by decide, by decide⟩
    have parts : trimmedParts " ٣ - 5,1" = ["٣ - 5".toList, "1".toList] := by decide
    have grammar : InGrammar " ٣ - 5,1" := by
      rw [InGrammar, parts]
      simpa using ⟨⟨_, stands⟩, ⟨_, single⟩⟩
    obtain ⟨ids, reads⟩ := accepted.2 grammar
    obtain ⟨ascends, inside⟩ := contents ids reads
    refine ⟨ids, reads, ascends, (inside 4).2 ⟨"٣ - 5".toList, ?_, _, stands, by decide⟩⟩
    rw [parts]
    exact List.mem_cons_self
  · have written : ¬∀ character ∈ "1²".toList, Text.isBlank character = true :=
      fun blank => absurd (blank '1' (by decide)) (by decide)
    obtain ⟨_, refused, _⟩ := (exactly_the_grammar_is_read "1²").2 written
    refine refused.2 fun grammar => ?_
    obtain ⟨block, stands⟩ := grammar "1²".toList (by decide)
    have refuses : readRun "1²".toList = .error (.numeral (.malformed "1²")) := by decide
    rw [← readRun_eq_ok_iff (by decide), refuses] at stands
    cases stands

end TextIds
end Concordance
