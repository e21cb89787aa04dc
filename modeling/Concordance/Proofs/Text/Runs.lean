import Concordance.Proofs.Text.Words

/-!
# Maximal runs of letters

The words of a text are its maximal runs of characters that are not blank. Such runs are described
here without any scanner: a text is made of runs with margins of blanks before them, and behind a
run the text ends or goes on with a blank. Every text is made in this way, of its words and of
nothing else.
-/

namespace Concordance
namespace Text

/-- How a text is made of its maximal runs, in order. There are blanks before each run and at the
end, and no run goes on in the text behind it. -/
inductive HasRuns : List Char -> List (List Char) -> Prop
  | blank
      {text : List Char}
      (blank : ∀ character ∈ text, isBlank character = true) :
      HasRuns text []
  | run
      (margin : List Char)
      {run rest : List Char}
      {runs : List (List Char)}
      (blank : ∀ character ∈ margin, isBlank character = true)
      (isWord : IsWord run)
      (ends : ∀ character ∈ rest.head?, isBlank character = true)
      (others : HasRuns rest runs) :
      HasRuns (margin ++ run ++ rest) (run :: runs)

namespace HasRuns

variable {character : Char} {text : List Char} {runs : List (List Char)}

/-- A blank in front changes no run. -/
theorem cons_of_isBlank
    (isMade : HasRuns text runs)
    (blank : isBlank character = true) :
    HasRuns (character :: text) runs := by
  cases isMade with
  | blank blanks => exact .blank (List.forall_mem_cons.2 ⟨blank, blanks⟩)
  | @run margin run rest runs blanks isWord ends others =>
      exact .run (character :: margin) (List.forall_mem_cons.2 ⟨blank, blanks⟩) isWord ends others

/-- A letter before a letter makes the first run longer. -/
theorem cons_of_letter
    {next : Char}
    {run : List Char}
    (isMade : HasRuns (next :: text) (run :: runs))
    (letter : isBlank character = false)
    (nextLetter : isBlank next = false) :
    HasRuns (character :: next :: text) ((character :: run) :: runs) := by
  generalize whole : next :: text = made at isMade ⊢
  cases isMade with
  | @run margin run rest runs blanks isWord ends others =>
      cases margin with
      | nil =>
          have longer : IsWord (character :: run) :=
            ⟨List.cons_ne_nil character run, List.forall_mem_cons.2 ⟨letter, isWord.2⟩⟩
          exact .run [] blanks longer ends others
      | cons first margin =>
          have first_eq : next = first := (List.cons.inj whole).1
          have blank := blanks first List.mem_cons_self
          rw [← first_eq, nextLetter] at blank
          cases blank

/-- A text that is made of runs has these as its words. -/
theorem words_eq (isMade : HasRuns text runs) : words text = runs := by
  induction isMade with
  | blank blank => exact (words_eq_nil_iff _).2 blank
  | @run margin run rest runs blanks isWord ends others inductionHypothesis =>
      rw [List.append_assoc, words_append_of_blank blanks, words_append_of_isWord isWord ends,
        inductionHypothesis]

/-- The runs of a text hold its letters and nothing else. -/
theorem flatten_eq (isMade : HasRuns text runs) :
    runs.flatten = text.filter fun character => !isBlank character := by
  induction isMade with
  | blank blank => simpa using blank
  | @run margin run rest runs blanks isWord ends others inductionHypothesis =>
      have marginLetters : margin.filter (fun character => !isBlank character) = [] := by
        simpa using blanks
      have runLetters : run.filter (fun character => !isBlank character) = run := by
        simpa using isWord.2
      rw [List.flatten_cons, List.filter_append, List.filter_append, marginLetters, runLetters,
        inductionHypothesis, List.nil_append]

end HasRuns

/-- Every text is made of its words. -/
theorem hasRuns_words (text : List Char) : HasRuns text (words text) := by
  induction text with
  | nil => exact .blank fun _ member => nomatch member
  | cons character rest inductionHypothesis =>
      cases blank : isBlank character with
      | true =>
          rw [words_cons_of_isBlank rest blank]
          exact inductionHypothesis.cons_of_isBlank blank
      | false =>
          by_cases ends : ∀ next ∈ rest.head?, isBlank next = true
          · have alone : IsWord [character] := by simp [IsWord, blank]
            rw [← List.singleton_append, words_append_of_isWord alone ends]
            exact .run [] (fun _ member => nomatch member) alone ends inductionHypothesis
          · cases rest with
            | nil => simp at ends
            | cons next others =>
                have nextLetter : isBlank next = false := by simpa using ends
                obtain ⟨word, later, rest_eq, words_eq⟩ :=
                  exists_words_cons_cons blank others nextLetter
                rw [rest_eq] at inductionHypothesis
                rw [words_eq]
                exact inductionHypothesis.cons_of_letter blank nextLetter

/-- The words of a text are its maximal runs. -/
theorem words_eq_iff_hasRuns (text : List Char) (runs : List (List Char)) :
    words text = runs ↔ HasRuns text runs := by
  constructor
  · rintro rfl
    exact hasRuns_words text
  · exact HasRuns.words_eq

end Text
end Concordance
