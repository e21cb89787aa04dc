import Concordance.Proofs.Phrase
import Concordance.Proofs.Query.Leaves
import Concordance.Proofs.Query.WellShaped

/-!
# Clauses spell out their terms

The clause of a token term can be read back: a phrase by cutting its text at the blanks, a pattern
by its value, and a span without gaps word by word. What is read are the words of the term. The
words with letters left open are the ones that stand in patterns, and they stand nowhere else, so
no marker is taken for a letter.
-/

namespace Concordance
namespace Query

/-- The name of the kind of a clause. -/
def kindName? : Value -> Option String
  | .obj [(name, _)] => some name
  | _ => none

/-- The text of a clause that is a leaf of a kind in a single field. -/
def leafText? (kind : LeafKind) : Value -> Option String
  | .obj [(name, .obj [(field, content)])] =>
      if LeafKind.ofName? name = some kind then Leaf.text? { kind, field, content } else none
  | _ => none

/-- The pattern that is wrapped for a span. -/
def wrapped? : Value -> Option Value
  | .obj [(name, .obj [(key, clause)])] =>
      if name = "span_multi" ∧ key = "match" then some clause else none
  | _ => none

/-- The word that a clause of a span looks for: an exact word, or a wrapped pattern. -/
def spanText? (clause : Value) : Option String :=
  (leafText? .exact clause).or ((wrapped? clause).bind (leafText? .wildcard))

/-- The clauses of a span that are in order and without gaps. -/
def gapless? : Value -> Option (List Value)
  | .obj [(name, .obj options)] =>
      match name, Value.field options "clauses", Value.field options "slop",
          Value.field options "in_order" with
      | "span_near", .list clauses, .int 0, .bool true => some clauses
      | _, _, _, _ => none
  | _ => none

/-- The words that a clause spells out: those of a phrase, a pattern, or the words of a span in
order and without gaps. -/
def spelled? (clause : Value) : Option (List String) :=
  ((leafText? .phrase clause).map fun text => (Text.words text.toList).map String.ofList).or
    (((leafText? .wildcard clause).map fun value => [value]).or
      ((gapless? clause).bind fun clauses => clauses.mapM spanText?))

@[simp] theorem spanText?_body (word : SpanWord) : spanText? word.body = some word.text := by
  cases word with
  | exact field word =>
      simp [SpanWord.body, spanText?, leafText?, LeafKind.ofName?, Leaf.text?, Value.text?,
        SpanWord.text]
  | pattern field value =>
      simp [SpanWord.body, patternBody, spanText?, leafText?, wrapped?, LeafKind.ofName?,
        Leaf.text?, Value.text?, Value.under, Value.field, SpanWord.text]

theorem spelled?_phrase (field text : String) :
    spelled? (TermClause.phrase field text).body =
      some ((Text.words text.toList).map String.ofList) := by
  simp [TermClause.body, spelled?, leafText?, LeafKind.ofName?, Leaf.text?, Value.text?,
    Value.under, Value.field]

theorem spelled?_pattern (field value : String) :
    spelled? (TermClause.pattern field value).body = some [value] := by
  simp [TermClause.body, patternBody, spelled?, leafText?, LeafKind.ofName?, Leaf.text?,
    Value.text?, Value.under, Value.field]

/-- The words of a span without gaps are read back. -/
theorem spelled?_near (words : List SpanWord) :
    spelled? (TermClause.near words 0 true).body = some (words.map SpanWord.text) := by
  have read : (words.map SpanWord.body).mapM spanText? = some (words.map SpanWord.text) := by
    induction words with
    | nil => rfl
    | cons word words inductionHypothesis =>
        simp [inductionHypothesis]
  simp [TermClause.body, spelled?, leafText?, gapless?, Value.field, read]

/-- A clause spells out words in a field. The words can be read back, the ones with letters left
open are its patterns, and no other leaf holds a marker. It is a phrase where no letters are left
open, and a span where some are in one of several words. -/
structure SpellsOut (clause : Value) (field : String) (words : List String) : Prop where
  spelled : spelled? clause = some words
  patterns :
    ((leaves clause).filter fun leaf => leaf.kind = .wildcard).map Leaf.text? =
      (words.filter fun word => Phrase.IsOpen word).map some
  phrase_iff : kindName? clause = some "match_phrase" ↔ ∀ word ∈ words, ¬Phrase.IsOpen word
  span_iff :
    kindName? clause = some "span_near" ↔
      2 ≤ words.length ∧ ∃ word ∈ words, Phrase.IsOpen word
  closed : ∀ leaf ∈ leaves clause, leaf.kind ≠ .wildcard ->
    ∃ text, leaf.text? = some text ∧ ¬Phrase.IsOpen text
  field_eq : ∀ leaf ∈ leaves clause, leaf.field = field

theorem phrase_spellsOut
    {text : String}
    (closed : ∀ word ∈ Phrase.splitWords text, ¬Phrase.IsOpen word)
    (field : String) :
    SpellsOut (TermClause.phrase field (Phrase.normalize text)).body field
      (Phrase.splitWords text) where
  spelled := by
    rw [spelled?_phrase, Phrase.words_normalize, Phrase.splitWords_eq_words]
  patterns := by
    have noneOpen :
        (Phrase.splitWords text).filter (fun word => Phrase.IsOpen word) = [] := by
      simpa using closed
    rw [noneOpen, leaves_phrase]
    rfl
  phrase_iff := iff_of_true rfl closed
  span_iff := by
    refine iff_of_false (by simp [kindName?, TermClause.body]) ?_
    rintro ⟨_, word, member, isOpen⟩
    exact closed word member isOpen
  closed := by
    intro leaf member _
    rw [leaves_phrase, List.mem_singleton] at member
    refine ⟨Phrase.normalize text, by rw [member, text?_phraseLeaf], ?_⟩
    rw [Phrase.isOpen_normalize_iff]
    rintro ⟨word, isWord, isOpen⟩
    exact closed word isWord isOpen
  field_eq := by simp [phraseLeaf]

theorem pattern_spellsOut
    {word : String}
    (isOpen : Phrase.IsOpen word)
    (field : String) :
    SpellsOut (TermClause.pattern field word).body field [word] where
  spelled := spelled?_pattern field word
  patterns := by
    simp only [TermClause.body, leaves_patternBody]
    simp [patternLeaf, isOpen, Leaf.text?, Value.under, Value.field, Value.text?]
  phrase_iff := by
    refine iff_of_false (by simp [kindName?, TermClause.body, patternBody]) ?_
    simpa using isOpen
  span_iff := by
    refine iff_of_false (by simp [kindName?, TermClause.body, patternBody]) ?_
    simp
  closed := by
    simp [TermClause.body, patternLeaf]
  field_eq := by
    simp [TermClause.body, patternLeaf]

theorem wordLeaf_spanWord (field word : String) :
    wordLeaf (spanWord field word) =
      if Phrase.IsOpen word then patternLeaf field word else exactLeaf field word := by
  unfold spanWord
  simp only [Phrase.hasMarker_iff]
  split <;> rfl

/-- A span without gaps spells out several words, of which one has open letters. -/
theorem near_spellsOut
    {words : List String}
    (several : 2 ≤ words.length)
    (someOpen : ∃ word ∈ words, Phrase.IsOpen word)
    (field : String) :
    SpellsOut (TermClause.near (words.map (spanWord field)) 0 true).body field words where
  spelled := by
    rw [spelled?_near, List.map_map]
    simp [Function.comp_def, text_spanWord]
  patterns := by
    simp only [leaves_near, List.map_map]
    clear several someOpen
    induction words with
    | nil => rfl
    | cons word words inductionHypothesis =>
        by_cases isOpen : Phrase.IsOpen word <;>
          simpa [wordLeaf_spanWord, isOpen, patternLeaf, exactLeaf, Leaf.text?, Value.under,
            Value.field, Value.text?] using inductionHypothesis
  phrase_iff := by
    refine iff_of_false (by simp [kindName?, TermClause.body]) ?_
    obtain ⟨word, member, isOpen⟩ := someOpen
    exact fun closed => closed word member isOpen
  span_iff := iff_of_true rfl ⟨several, someOpen⟩
  closed := by
    intro leaf member notPattern
    simp only [leaves_near, List.map_map, List.mem_map, Function.comp_apply] at member
    obtain ⟨word, _, rfl⟩ := member
    rw [wordLeaf_spanWord] at notPattern ⊢
    split at notPattern
    next isOpen => exact absurd rfl notPattern
    next isClosed => exact ⟨word, by rw [if_neg isClosed, text?_exactLeaf], isClosed⟩
  field_eq := by
    intro leaf member
    simp only [leaves_near, List.map_map, List.mem_map, Function.comp_apply] at member
    obtain ⟨word, _, rfl⟩ := member
    exact field_spanWord field word

/-- The clause of a token term that is not blank spells out the words of the term in its field. -/
theorem tokenClause_spells_term
    {term : String}
    (notBlank : ¬∀ character ∈ term.toList, Text.isBlank character = true)
    (field : String) :
    SpellsOut (tokenClause (Phrase.normalize term) field).body field
      (Phrase.splitWords term) := by
  have nonempty := Phrase.splitWords_ne_nil notBlank
  unfold tokenClause
  simp only [Phrase.splitWords_normalize]
  split
  next single =>
    obtain ⟨word, words_eq⟩ := List.length_eq_one_iff.1 single
    simp only [Phrase.hasMarker_iff, Phrase.isOpen_normalize_iff]
    split
    next someOpen =>
      rw [words_eq] at someOpen ⊢
      rw [Phrase.normalize_eq_of_splitWords words_eq]
      exact pattern_spellsOut (by simpa using someOpen) field
    next noneOpen =>
      exact phrase_spellsOut (by simpa using noneOpen) field
  next several =>
    have two : 2 ≤ (Phrase.splitWords term).length := by
      have := List.length_pos_iff.2 nonempty
      omega
    simp only [List.any_eq_true, Phrase.hasMarker_iff]
    split
    next someOpen => exact near_spellsOut two someOpen field
    next noneOpen => exact phrase_spellsOut (by simpa using noneOpen) field

/-- A phrase of two words, one of them open, is spelled out whatever blanks stand around them. -/
theorem open_phrase_is_spelled :
    (¬∀ character ∈ "  ab*\u00A0cd ".toList, Text.isBlank character = true) ∧
      Phrase.splitWords "  ab*\u00A0cd " = ["ab*", "cd"] ∧
      SpellsOut (tokenClause (Phrase.normalize "  ab*\u00A0cd ") "page_content").body
        "page_content" (Phrase.splitWords "  ab*\u00A0cd ") := by
  have notBlank :
      ¬∀ character ∈ "  ab*\u00A0cd ".toList, Text.isBlank character = true :=
    fun blank => absurd (blank 'a' (by simp)) (by decide)
  exact ⟨notBlank, by decide, tokenClause_spells_term notBlank "page_content"⟩

end Query
end Concordance
