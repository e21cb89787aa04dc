import Concordance.Proofs.Phrase
import Concordance.Proofs.Text.Runs
import Concordance.Root

/-!
# Words as they are compiled and checked

The compiler of a search normalises a term and cuts the normal form at its spaces; the check of a
search trims a term and counts the words of the text as typed. Both see the same words, the maximal
runs of characters that are not blank. A root pattern leaves out the blanks, so it makes no
difference whether a root is normalised first.
-/

namespace Concordance

namespace Root

theorem letters_eq_flatten_words (text : String) :
    letters text = (Text.words text.toList).flatten :=
  (Text.hasRuns_words text.toList).flatten_eq.symm

theorem pattern_normalize (text : String) :
    pattern (Phrase.normalize text) = pattern text := by
  simp only [pattern, letters_eq_flatten_words, Phrase.words_normalize]

end Root

namespace Phrase

theorem normalize_eq_empty_iff (text : String) :
    normalize text = "" ↔ Text.trim text.toList = [] := by
  rw [← String.isEmpty_iff, isEmpty_normalize_iff, Text.trim_eq_nil_iff]

/-- The words of a phrase are the maximal runs of its text. -/
theorem splitWords_eq_iff_hasRuns (text : String) (words : List String) :
    splitWords text = words ↔ Text.HasRuns text.toList (words.map String.toList) := by
  rw [← Text.words_eq_iff_hasRuns, splitWords_eq_words]
  constructor
  · rintro rfl
    simp [Function.comp_def]
  · intro words_eq
    simp [words_eq, Function.comp_def]

/-- The compiler and the check of a search read the same words. The words that a term is cut into
by its normal form are those of the text as typed, and these are its maximal runs of characters
that are not blank. The normal form is joined from them with single spaces; it is its own normal
form, it is empty exactly when trimming leaves nothing of the text, and it has the root pattern of
the text. -/
theorem compiler_and_check_read_the_same_words (text : String) :
    splitWords text = (Text.words text.toList).map String.ofList ∧
      (∀ words, splitWords text = words ↔
        Text.HasRuns text.toList (words.map String.toList)) ∧
      normalize text = " ".intercalate (splitWords text) ∧
      normalize (normalize text) = normalize text ∧
      (normalize text = "" ↔ Text.trim text.toList = []) ∧
      Root.pattern text = Root.pattern (normalize text) :=
  ⟨splitWords_eq_words text, splitWords_eq_iff_hasRuns text, normalize_eq_intercalate text,
    normalize_normalize text, normalize_eq_empty_iff text, (Root.pattern_normalize text).symm⟩

end Phrase
end Concordance
