import Concordance.Proofs.Text.Blank
import Concordance.Proofs.Text.Pieces

/-!
# The words of a text

Words are not empty and hold no blanks, and a text has none exactly when it is blank. The main
statement says that a text that is collapsed and trimmed is joined from its words with single
spaces, so cutting it at the spaces gives the words back.
-/

namespace Concordance
namespace Text

/-- A text that is a single word: it is not empty and holds no blank. -/
def IsWord (text : List Char) : Prop :=
  text ≠ [] ∧ ∀ character ∈ text, isBlank character = false

instance : DecidablePred IsWord := fun text =>
  inferInstanceAs (Decidable (text ≠ [] ∧ ∀ character ∈ text, isBlank character = false))

section Letters

variable {character : Char} (letter : isBlank character = false)

include letter

/-- A text that begins with a letter has a word. -/
theorem words_cons_ne_nil (rest : List Char) : words (character :: rest) ≠ [] := by
  cases rest with
  | nil => simp [words, letter]
  | cons next others =>
      simp only [words, letter, Bool.false_eq_true, if_false]
      split
      · exact List.cons_ne_nil _ _
      · split <;> exact List.cons_ne_nil _ _

theorem words_cons_cons_of_isBlank
    {next : Char}
    (rest : List Char)
    (blank : isBlank next = true) :
    words (character :: next :: rest) = [character] :: words (next :: rest) := by
  simp [words, letter, blank]

/-- A letter before a letter belongs to its word. -/
theorem exists_words_cons_cons
    {next : Char}
    (rest : List Char)
    (nextLetter : isBlank next = false) :
    ∃ word others,
      words (next :: rest) = word :: others ∧
      words (character :: next :: rest) = (character :: word) :: others := by
  obtain ⟨word, others, words_eq⟩ :=
    List.exists_cons_of_ne_nil (words_cons_ne_nil nextLetter rest)
  exact ⟨word, others, words_eq, by simp [words, letter, nextLetter, words_eq]⟩

/-- Trimming on the right keeps a letter in front. -/
theorem trimRight_cons_of_letter (rest : List Char) :
    trimRight (character :: rest) = character :: trimRight rest := by
  unfold trimRight
  rw [List.reverse_cons, List.dropWhile_append]
  split
  next empty => simp [letter, List.isEmpty_iff.1 empty]
  next => rw [List.reverse_append, List.reverse_singleton, List.singleton_append]

end Letters

/-- Trimming on the right keeps a blank in front of what it keeps. -/
theorem trimRight_cons_of_isBlank
    {character : Char}
    (blank : isBlank character = true)
    (rest : List Char) :
    trimRight (character :: rest) =
      if trimRight rest = [] then [] else character :: trimRight rest := by
  unfold trimRight
  rw [List.reverse_cons, List.dropWhile_append]
  simp only [List.isEmpty_iff, List.reverse_eq_nil_iff]
  split
  next => simp [blank]
  next => rw [List.reverse_append, List.reverse_singleton, List.singleton_append]

theorem collapse_cons_of_letter
    {character : Char}
    (letter : isBlank character = false)
    (rest : List Char) :
    collapse (character :: rest) = character :: collapse rest := by
  simp [collapse, letter]

section Blanks

variable {character next : Char} (blank : isBlank character = true) (rest : List Char)

include blank

theorem collapse_cons_cons_of_isBlank (nextBlank : isBlank next = true) :
    collapse (character :: next :: rest) = collapse (next :: rest) := by
  simp [collapse, blank, nextBlank]

theorem collapse_cons_cons_of_letter (nextLetter : isBlank next = false) :
    collapse (character :: next :: rest) = ' ' :: collapse (next :: rest) := by
  simp [collapse, blank, nextLetter]

end Blanks

/-- The words of a text are words. -/
theorem isWord_of_mem_words (text : List Char) : ∀ word ∈ words text, IsWord word := by
  induction text with
  | nil => exact fun _ member => nomatch member
  | cons character rest inductionHypothesis =>
      cases blank : isBlank character with
      | true =>
          rw [words_cons_of_isBlank rest blank]
          exact inductionHypothesis
      | false =>
          have alone : IsWord [character] := by simp [IsWord, blank]
          cases rest with
          | nil => simpa [words, blank] using alone
          | cons next others =>
              cases nextBlank : isBlank next with
              | true =>
                  rw [words_cons_cons_of_isBlank blank others nextBlank, List.forall_mem_cons]
                  exact ⟨alone, inductionHypothesis⟩
              | false =>
                  obtain ⟨word, later, rest_eq, words_eq⟩ :=
                    exists_words_cons_cons blank others nextBlank
                  rw [rest_eq, List.forall_mem_cons] at inductionHypothesis
                  rw [words_eq, List.forall_mem_cons]
                  refine ⟨⟨List.cons_ne_nil character word, ?_⟩, inductionHypothesis.2⟩
                  rw [List.forall_mem_cons]
                  exact ⟨blank, inductionHypothesis.1.2⟩

/-- A text has no words exactly when it is blank. -/
theorem words_eq_nil_iff (text : List Char) :
    words text = [] ↔ ∀ character ∈ text, isBlank character = true := by
  induction text with
  | nil => simp
  | cons character rest inductionHypothesis =>
      cases blank : isBlank character with
      | true => simp [words_cons_of_isBlank rest blank, inductionHypothesis, blank]
      | false => simp [words_cons_ne_nil blank rest, blank]

/-- The space that is left of the blanks before the first word. -/
def margin (text : List Char) : List Char :=
  if text.head?.any isBlank && !(words text).isEmpty then [' '] else []

section Margins

variable {character : Char}

theorem margin_cons_of_letter
    (letter : isBlank character = false)
    (rest : List Char) :
    margin (character :: rest) = [] := by
  simp [margin, letter]

theorem margin_cons_of_isBlank
    (blank : isBlank character = true)
    (rest : List Char) :
    margin (character :: rest) = if words rest = [] then [] else [' '] := by
  cases found : words rest <;> simp [margin, blank, words_cons_of_isBlank rest blank, found]

/-- The words of a text that begins with a letter are joined from that letter, the space that is
left of blanks behind it, and the words of the rest. -/
theorem intercalate_words_cons
    (letter : isBlank character = false)
    (rest : List Char) :
    [' '].intercalate (words (character :: rest)) =
      character :: (margin rest ++ [' '].intercalate (words rest)) := by
  cases rest with
  | nil => simp [words, letter, margin]
  | cons next others =>
      cases nextBlank : isBlank next with
      | true =>
          rw [words_cons_cons_of_isBlank letter others nextBlank,
            margin_cons_of_isBlank nextBlank, words_cons_of_isBlank others nextBlank]
          cases words others with
          | nil => simp
          | cons word later => simp [List.intercalate_cons_cons]
      | false =>
          obtain ⟨word, later, rest_eq, words_eq⟩ :=
            exists_words_cons_cons letter others nextBlank
          rw [words_eq, rest_eq, margin_cons_of_letter nextBlank, List.nil_append]
          cases later with
          | nil => simp
          | cons second later => simp [List.intercalate_cons_cons]

end Margins

/-- A text that is collapsed and trimmed on the right is joined from its words, behind the space
that is left of the blanks before them. -/
theorem trimRight_collapse (text : List Char) :
    trimRight (collapse text) = margin text ++ [' '].intercalate (words text) := by
  induction text with
  | nil => rfl
  | cons character rest inductionHypothesis =>
      cases blank : isBlank character with
      | false =>
          rw [collapse_cons_of_letter blank, trimRight_cons_of_letter blank, inductionHypothesis,
            margin_cons_of_letter blank, List.nil_append, intercalate_words_cons blank]
      | true =>
          rw [margin_cons_of_isBlank blank, words_cons_of_isBlank rest blank]
          cases rest with
          | nil => simp [collapse, blank, trimRight]
          | cons next others =>
              cases nextBlank : isBlank next with
              | true =>
                  rw [collapse_cons_cons_of_isBlank blank others nextBlank, inductionHypothesis,
                    margin_cons_of_isBlank nextBlank, words_cons_of_isBlank others nextBlank]
              | false =>
                  rw [margin_cons_of_letter nextBlank, List.nil_append] at inductionHypothesis
                  have kept : trimRight (collapse (next :: others)) ≠ [] := by
                    rw [collapse_cons_of_letter nextBlank, trimRight_cons_of_letter nextBlank]
                    exact List.cons_ne_nil _ _
                  rw [collapse_cons_cons_of_letter blank others nextBlank,
                    trimRight_cons_of_isBlank isBlank_space, if_neg kept, inductionHypothesis,
                    if_neg (words_cons_ne_nil nextBlank others), List.singleton_append]

/-- A text that is collapsed and trimmed is joined from its words with single spaces. -/
theorem trim_collapse (text : List Char) :
    trim (collapse text) = [' '].intercalate (words text) := by
  induction text with
  | nil => rfl
  | cons character rest inductionHypothesis =>
      cases blank : isBlank character with
      | true =>
          have dropped : trimLeft (collapse (character :: rest)) = trimLeft (collapse rest) := by
            cases rest with
            | nil => simp [collapse, blank, trimLeft]
            | cons next others =>
                cases nextBlank : isBlank next <;> simp [collapse, blank, nextBlank, trimLeft]
          rw [trim, dropped, words_cons_of_isBlank rest blank, ← inductionHypothesis, trim]
      | false =>
          have kept : trimLeft (collapse (character :: rest)) = collapse (character :: rest) := by
            rw [collapse_cons_of_letter blank, trimLeft,
              List.dropWhile_cons_of_neg (by simp [blank])]
          rw [trim, kept, trimRight_collapse, margin_cons_of_letter blank, List.nil_append]

/-- Blanks in front change no word. -/
theorem words_append_of_blank
    {margin : List Char}
    (blank : ∀ character ∈ margin, isBlank character = true)
    (text : List Char) :
    words (margin ++ text) = words text := by
  induction margin with
  | nil => rfl
  | cons character margin inductionHypothesis =>
      rw [List.forall_mem_cons] at blank
      rw [List.cons_append, words_cons_of_isBlank _ blank.1, inductionHypothesis blank.2]

/-- A word in front of a text that does not go on with a letter is the first word. -/
theorem words_append_of_isWord
    {word rest : List Char}
    (isWord : IsWord word)
    (ends : ∀ character ∈ rest.head?, isBlank character = true) :
    words (word ++ rest) = word :: words rest := by
  obtain ⟨nonempty, letters⟩ := isWord
  induction word with
  | nil => exact absurd rfl nonempty
  | cons character others inductionHypothesis =>
      rw [List.forall_mem_cons] at letters
      cases others with
      | nil =>
          cases rest with
          | nil => simp [words, letters.1]
          | cons blank later =>
              exact words_cons_cons_of_isBlank letters.1 later (ends blank rfl)
      | cons next later =>
          have nextLetter := letters.2 next List.mem_cons_self
          obtain ⟨word, following, rest_eq, words_eq⟩ :=
            exists_words_cons_cons letters.1 (later ++ rest) nextLetter
          have tail := inductionHypothesis (List.cons_ne_nil next later) letters.2
          rw [List.cons_append, rest_eq, List.cons.injEq] at tail
          rw [List.cons_append, List.cons_append, words_eq, tail.1, tail.2]

/-- A single word is its only word. -/
theorem words_eq_singleton
    {word : List Char}
    (isWord : IsWord word) :
    words word = [word] := by
  have alone : words (word ++ []) = word :: words [] :=
    words_append_of_isWord isWord fun _ member => nomatch member
  rwa [List.append_nil] at alone

/-- Words that are joined with spaces are found again. -/
theorem words_intercalate
    {pieces : List (List Char)}
    (areWords : ∀ piece ∈ pieces, IsWord piece) :
    words ([' '].intercalate pieces) = pieces := by
  induction pieces with
  | nil => rfl
  | cons piece rest inductionHypothesis =>
      rw [List.forall_mem_cons] at areWords
      cases rest with
      | nil => rw [List.intercalate_singleton, words_eq_singleton areWords.1]
      | cons next others =>
          rw [List.intercalate_cons_cons, List.append_assoc, List.singleton_append,
            words_append_of_isWord areWords.1 (by simp), words_cons_of_isBlank _ isBlank_space,
            inductionHypothesis areWords.2]

end Text
end Concordance
