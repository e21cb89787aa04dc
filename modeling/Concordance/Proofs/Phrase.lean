import Concordance.Phrase
import Concordance.Proofs.Text.Words

/-!
# Normal forms of phrases

The normal form of a phrase is joined from its words with single spaces. So the words are found
again by cutting the normal form at its spaces, a normal form is its own, and it is empty exactly
when the phrase is blank. Letters are left open in a normal form where a word leaves them open.
-/

namespace Concordance
namespace Phrase

theorem isEmpty_normalize_iff (text : String) :
    (normalize text).isEmpty = true ↔
      ∀ character ∈ text.toList, Text.isBlank character = true := by
  rw [← Text.forall_mem_collapse_iff, ← Text.trim_eq_nil_iff]
  unfold normalize
  simp

theorem toList_normalize (text : String) :
    (normalize text).toList = [' '].intercalate (Text.words text.toList) := by
  rw [normalize, String.toList_ofList, Text.trim_collapse]

theorem words_normalize (text : String) :
    Text.words (normalize text).toList = Text.words text.toList := by
  rw [toList_normalize, Text.words_intercalate (Text.isWord_of_mem_words text.toList)]

/-- A phrase is cut into its words. -/
theorem splitWords_eq_words (text : String) :
    splitWords text = (Text.words text.toList).map String.ofList := by
  have areWords := Text.isWord_of_mem_words text.toList
  unfold splitWords
  simp only [toList_normalize]
  cases found : Text.words text.toList with
  | nil => rfl
  | cons word others =>
      rw [found] at areWords
      have spaceless : ∀ piece ∈ word :: others, ' ' ∉ piece := by
        intro piece member space
        exact absurd ((areWords piece member).2 ' ' space) (by decide)
      have nonempty : [' '].intercalate (word :: others) ≠ [] := by
        intro empty
        have pieces := Text.words_intercalate areWords
        rw [empty] at pieces
        cases pieces
      simp only [List.isEmpty_iff, nonempty, if_false, Text.splitAt_eq_splitOn]
      rw [List.splitOn_intercalate ' ' spaceless (List.cons_ne_nil word others)]

/-- A phrase of one word is written as this word. -/
theorem isWord_normalize
    {text : String}
    (single : (Text.words text.toList).length = 1) :
    Text.IsWord (normalize text).toList := by
  obtain ⟨word, words_eq⟩ := List.length_eq_one_iff.1 single
  rw [toList_normalize, words_eq, List.intercalate_singleton]
  exact Text.isWord_of_mem_words text.toList word (by simp [words_eq])

/-- Letters are left open in a text. -/
def IsOpen (text : String) : Prop :=
  '*' ∈ text.toList ∨ '?' ∈ text.toList

instance : DecidablePred IsOpen := fun text =>
  inferInstanceAs (Decidable ('*' ∈ text.toList ∨ '?' ∈ text.toList))

theorem hasMarker_iff (text : String) : hasMarker text = true ↔ IsOpen text := by
  simp [hasMarker, IsOpen, isMarker, and_or_left, exists_or]

theorem normalize_eq_intercalate (text : String) :
    normalize text = (String.singleton ' ').intercalate (splitWords text) := by
  rw [← String.toList_inj, Text.toList_intercalate_singleton, toList_normalize,
    splitWords_eq_words, List.map_map]
  simp [Function.comp_def]

theorem mem_normalize_iff (text : String) (character : Char) :
    character ∈ (normalize text).toList ↔
      (∃ word ∈ splitWords text, character ∈ word.toList) ∨
        character = ' ' ∧ 1 < (splitWords text).length := by
  rw [normalize_eq_intercalate, Text.mem_intercalate_iff]

theorem isOpen_normalize_iff (text : String) :
    IsOpen (normalize text) ↔ ∃ word ∈ splitWords text, IsOpen word := by
  unfold IsOpen
  simp only [mem_normalize_iff, Char.reduceEq, false_and, or_false]
  simp only [and_or_left, exists_or]

@[simp] theorem splitWords_normalize (text : String) :
    splitWords (normalize text) = splitWords text := by
  rw [splitWords_eq_words, words_normalize, splitWords_eq_words]

@[simp] theorem normalize_normalize (text : String) :
    normalize (normalize text) = normalize text := by
  rw [normalize_eq_intercalate (normalize text), splitWords_normalize, ← normalize_eq_intercalate]

theorem normalize_eq_of_splitWords
    {text word : String}
    (single : splitWords text = [word]) :
    normalize text = word := by
  rw [normalize_eq_intercalate, single, String.intercalate_singleton]

theorem splitWords_ne_nil
    {text : String}
    (notBlank : ¬∀ character ∈ text.toList, Text.isBlank character = true) :
    splitWords text ≠ [] := by
  rw [splitWords_eq_words, ne_eq, List.map_eq_nil_iff, Text.words_eq_nil_iff]
  exact notBlank

end Phrase
end Concordance
