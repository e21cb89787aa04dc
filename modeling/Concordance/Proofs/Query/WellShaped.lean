import Concordance.Proofs.Entries
import Concordance.Proofs.Outcome
import Concordance.Proofs.Query.Meaning
import Concordance.Search.Shape
import Mathlib.Data.List.Induction

/-!
# Well-shaped searches compile

The check of a search and its compilation look at words in different ways: the one trims a term and
counts the words of the text as typed, the other goes by the normal form. The main statement says
that they agree. A search that passes the check compiles, none of its terms is left out as blank,
and wherever a query asks for a single word, in a span or as a pattern, it holds a single word.
-/

namespace Concordance

namespace Search

/-- A term that passes the check has a word. -/
theorem not_isBlank_of_checkTerm
    {label : String}
    {term : Term}
    (passes : checkTerm label term = .ok ()) :
    ¬term.IsBlank := by
  intro blank
  have blankTerm : isBlankTerm term = true := by
    rw [isBlankTerm, List.isEmpty_iff, Text.trim_eq_nil_iff]
    exact blank
  rw [checkTerm, if_pos blankTerm] at passes
  cases passes

/-- The terms of a group that passes the check have words. -/
theorem not_isBlank_of_checkGroupTerms
    {group : Group}
    {position : Nat}
    {terms : List Term}
    (passes : checkGroupTerms group position terms = .ok ()) :
    ∀ term ∈ terms, ¬term.IsBlank := by
  induction terms generalizing position with
  | nil => exact fun _ member => nomatch member
  | cons term rest inductionHypothesis =>
      unfold checkGroupTerms at passes
      obtain ⟨_, termPasses, passes⟩ := exists_of_bind_eq_ok passes
      obtain ⟨_, restPasses⟩ := of_guarded_eq_ok passes
      rw [List.forall_mem_cons]
      exact ⟨not_isBlank_of_checkTerm termPasses, inductionHypothesis restPasses⟩

/-- A group that passes the check has two terms at least, and all of them have words. -/
theorem of_checkGroup
    {group : Group}
    {terms : List Term}
    (passes : checkGroup group terms = .ok ()) :
    terms ≠ [] ∧ ∀ term ∈ terms, ¬term.IsBlank := by
  unfold checkGroup at passes
  obtain ⟨sizeFits, termsPass⟩ := of_guarded_eq_ok passes
  refine ⟨?_, not_isBlank_of_checkGroupTerms termsPass⟩
  rintro rfl
  exact sizeFits (.inl (by decide))

/-- A term of a proximity search that passes the check is a single word. -/
theorem length_words_of_checkWord
    {label : String}
    {term : Term}
    (passes : checkWord label term = .ok ()) :
    (Text.words term.text.toList).length = 1 := by
  unfold checkWord at passes
  obtain ⟨_, termPasses, passes⟩ := exists_of_bind_eq_ok passes
  obtain ⟨notMany, _⟩ := of_guarded_eq_ok passes
  have some : Text.words term.text.toList ≠ [] :=
    mt (Text.words_eq_nil_iff _).1 (not_isBlank_of_checkTerm termPasses)
  have positive := List.length_pos_iff.2 some
  omega

end Search

/-- What it takes for every term of a question to have its clause: no term is blank, the groups are
not both empty, and neighbours are single words with a distance between them. -/
def Question.IsWhole : Question -> Prop
  | .simple term => ¬term.IsBlank
  | .advanced required alternatives =>
      required ≠ [] ∧ (∀ term ∈ required, ¬term.IsBlank) ∧ ∀ term ∈ alternatives, ¬term.IsBlank
  | .proximity first second slop =>
      (Text.words first.text.toList).length = 1 ∧ (Text.words second.text.toList).length = 1 ∧
        0 ≤ slop
  | .unsupported _ => False

/-- A search that passes the check asks a whole question. -/
theorem Search.isWhole_of_check
    {search : Search}
    (passes : search.check = .ok ()) :
    search.question.IsWhole := by
  unfold check at passes
  obtain ⟨_, passes, _⟩ := exists_of_bind_eq_ok passes
  cases asked : search.question with
  | simple term =>
      rw [asked] at passes
      exact not_isBlank_of_checkTerm passes
  | advanced required alternatives =>
      rw [asked] at passes
      obtain ⟨_, requiredPass, passes⟩ := exists_of_bind_eq_ok passes
      refine ⟨(of_checkGroup requiredPass).1, (of_checkGroup requiredPass).2, ?_⟩
      by_cases none : alternatives = []
      · simp [none]
      · have given : (!alternatives.isEmpty) = true := by simp [none]
        rw [if_pos given] at passes
        exact (of_checkGroup passes).2
  | proximity first second slop =>
      rw [asked] at passes
      obtain ⟨_, firstPasses, passes⟩ := exists_of_bind_eq_ok passes
      obtain ⟨_, secondPasses, passes⟩ := exists_of_bind_eq_ok passes
      obtain ⟨slopFits, _⟩ := of_guarded_eq_ok passes
      simp only [slopBounds] at slopFits
      exact ⟨length_words_of_checkWord firstPasses, length_words_of_checkWord secondPasses,
        by omega⟩
  | unsupported mode =>
      rw [asked] at passes
      cases passes

/-- The text of a word of a span. -/
def SpanWord.text : SpanWord -> String
  | .exact _ word => word
  | .pattern _ value => value

/-- The texts that a clause asks for as single words: the words of a span, and patterns. -/
def TermClause.singleWords : TermClause -> List String
  | .phrase .. => []
  | .pattern _ value => [value]
  | .near words _ _ => words.map SpanWord.text

/-- The texts that a clause of a query asks for as single words. -/
def Clause.singleWords : Clause -> List String
  | .term clause => clause.singleWords
  | .anyOf clauses => clauses.flatMap TermClause.singleWords
  | .texts .. => []

/-- A clause that holds a single word wherever it asks for one. -/
def TermClause.HoldsWords (clause : TermClause) : Prop :=
  ∀ word ∈ clause.singleWords, Text.IsWord word.toList

namespace Query

/-- The texts that a query asks for as single words, anywhere in its clauses and in the queries that
highlight its fields. -/
def singleWords (query : Query) : List String :=
  (query.must ++ query.should ++ query.filter).flatMap Clause.singleWords ++
    query.highlight.fields.flatMap fun entry =>
      entry.2.query.toList.flatMap TermClause.singleWords

theorem isEmpty_normalize_eq_false
    {term : Term}
    (notBlank : ¬term.IsBlank) :
    (Phrase.normalize term.text).isEmpty = false := by
  rw [← Bool.not_eq_true, Phrase.isEmpty_normalize_iff]
  exact notBlank

/-- A term of one word is not blank. -/
theorem not_isBlank_of_single
    {term : Term}
    (single : (Text.words term.text.toList).length = 1) :
    ¬term.IsBlank := by
  intro blank
  rw [(Text.words_eq_nil_iff term.text.toList).2 blank] at single
  cases single

/-- The pattern of a root that is not blank is a single word. -/
theorem isWord_rootPattern
    {term : Term}
    (notBlank : ¬term.IsBlank) :
    Text.IsWord (Root.pattern (Phrase.normalize term.text)).toList := by
  have someLetter : Root.letters (Phrase.normalize term.text) ≠ [] := by
    intro noLetter
    apply notBlank
    rw [Root.letters, List.filter_eq_nil_iff] at noLetter
    apply (Text.words_eq_nil_iff term.text.toList).1
    rw [← Phrase.words_normalize, Text.words_eq_nil_iff]
    simpa using noLetter
  have maskedLetter (letter : Char) (clean : Text.isBlank letter = false) :
      Text.isBlank (Root.mask letter) = false := by
    unfold Root.mask
    split
    · decide
    · exact clean
  rw [Root.pattern, String.toList_ofList]
  constructor
  · obtain ⟨letter, others, letters_eq⟩ := List.exists_cons_of_ne_nil someLetter
    simp [letters_eq]
  · intro character member
    obtain ⟨letter, isLetter, here⟩ := List.mem_flatMap.1 member
    have clean : Text.isBlank letter = false := by
      simpa using (List.mem_filter.1 isLetter).2
    rcases List.mem_cons.1 here with rfl | separator
    · exact maskedLetter letter clean
    · rw [List.mem_singleton.1 separator]
      decide

theorem text_spanWord (field word : String) : (spanWord field word).text = word := by
  unfold spanWord
  split <;> rfl

/-- The clause of a token term holds single words where it asks for them. -/
theorem holdsWords_tokenClause (text field : String) :
    (tokenClause (Phrase.normalize text) field).HoldsWords := by
  have words_eq := Phrase.splitWords_eq_words (Phrase.normalize text)
  rw [Phrase.words_normalize] at words_eq
  unfold tokenClause
  simp only [words_eq, List.length_map]
  split
  next single =>
    split
    · intro word member
      rw [List.mem_singleton.1 member]
      exact Phrase.isWord_normalize single
    · exact fun _ member => nomatch member
  next =>
    split
    · intro word member
      simp only [TermClause.singleWords, List.map_map, List.mem_map] at member
      obtain ⟨letters, isWord, rfl⟩ := member
      simpa [text_spanWord] using Text.isWord_of_mem_words _ letters isWord
    · exact fun _ member => nomatch member

section Clauses

variable (layout : Layout)

theorem holdsWords_simpleClause (term : Term) : (simpleClause layout term).HoldsWords := by
  unfold simpleClause
  split
  · exact fun _ member => nomatch member
  · exact holdsWords_tokenClause _ _

/-- The clause of a term in a group holds single words where it asks for them. -/
theorem holdsWords_groupClause
    {term : Term}
    (notBlank : ¬term.IsBlank) :
    (groupClause layout term).HoldsWords := by
  unfold groupClause
  split
  · intro word member
    rw [List.mem_singleton.1 member]
    exact isWord_rootPattern notBlank
  · exact holdsWords_tokenClause _ _

/-- The span of two single words is a span of two words. -/
theorem exists_spanClause_eq
    {first second : Term}
    (firstSingle : (Text.words first.text.toList).length = 1)
    (secondSingle : (Text.words second.text.toList).length = 1)
    (slop : Int) :
    ∃ firstWord secondWord,
      spanClause layout first second slop = .near [firstWord, secondWord] slop false ∧
      Text.IsWord firstWord.text.toList ∧ Text.IsWord secondWord.text.toList := by
  unfold spanClause
  simp only [List.map_cons, List.map_nil]
  split
  · exact ⟨_, _, rfl, isWord_rootPattern (not_isBlank_of_single firstSingle),
      isWord_rootPattern (not_isBlank_of_single secondSingle)⟩
  · refine ⟨_, _, rfl, ?_, ?_⟩
    · rw [text_spanWord]
      exact Phrase.isWord_normalize firstSingle
    · rw [text_spanWord]
      exact Phrase.isWord_normalize secondSingle

/-- A group without blank terms has the clause of every term. -/
theorem groupClauses_eq_map
    {terms : List Term}
    (notBlank : ∀ term ∈ terms, ¬term.IsBlank) :
    groupClauses layout terms = terms.map (groupClause layout) := by
  induction terms with
  | nil => rfl
  | cons term rest inductionHypothesis =>
      rw [List.forall_mem_cons] at notBlank
      have own := (groupPart?_map_clause_eq_some_iff layout term _).2 ⟨notBlank.1, rfl⟩
      obtain ⟨part, found, clause_eq⟩ := Option.map_eq_some_iff.1 own
      rw [List.map_cons, ← inductionHypothesis notBlank.2, ← clause_eq, groupClauses,
        List.filterMap_cons_some found, List.map_cons]
      rfl

/-- The part of a term in a group has the clause of the term. -/
theorem holdsWords_of_mem_parts
    {terms : List Term}
    (notBlank : ∀ term ∈ terms, ¬term.IsBlank) :
    ∀ part ∈ terms.filterMap (groupPart? layout), part.clause.HoldsWords := by
  intro part member
  have isClause : part.clause ∈ groupClauses layout terms := List.mem_map_of_mem member
  obtain ⟨term, inGroup, _, clause_eq⟩ := (mem_groupClauses layout terms _).1 isClause
  rw [← clause_eq]
  exact holdsWords_groupClause layout (notBlank term inGroup)

/-- What is highlighted in a field is a part in the field. -/
theorem exists_part_of_mem_highlightFields
    {highlighter : String}
    {parts : List Part}
    {entry : String × HighlightField TermClause}
    (member : entry ∈ highlightFields layout highlighter parts) :
    ∃ part ∈ parts, entry = (part.field, highlightField layout highlighter part) := by
  -- From the end, since the last part is put into the fields of the others.
  induction parts using List.reverseRecOn with
  | nil => cases member
  | append_singleton parts part inductionHypothesis =>
      rw [highlightFields, List.foldl_append, List.foldl_cons, List.foldl_nil] at member
      rcases Entries.mem_put member with rfl | earlier
      · exact ⟨part, by simp, rfl⟩
      · obtain ⟨other, inParts, entry_eq⟩ := inductionHypothesis earlier
        exact ⟨other, List.mem_append_left _ inParts, entry_eq⟩

/-- The query of a field, where it has one, is the clause of its part. -/
theorem clause_of_highlightQuery?
    {clause query : TermClause}
    (own : highlightQuery? clause = some query) :
    clause = query := by
  cases clause with
  | phrase field text => cases own
  | pattern field value => exact Option.some.inj own
  | near words slop inOrder => exact Option.some.inj own

/-- Where the parts hold single words, so do the queries that highlight their fields. -/
theorem holdsWords_of_mem_highlightFields
    {highlighter : String}
    {parts : List Part}
    (hold : ∀ part ∈ parts, part.clause.HoldsWords)
    {entry : String × HighlightField TermClause}
    (member : entry ∈ highlightFields layout highlighter parts)
    {query : TermClause}
    (own : entry.2.query = some query) :
    query.HoldsWords := by
  obtain ⟨part, inParts, rfl⟩ := exists_part_of_mem_highlightFields layout member
  rw [← clause_of_highlightQuery? own]
  exact hold part inParts

/-- A question of which no term is left out: one clause for a simple search, and one for a proximity
search, which is a span of two words; one for every required term of an advanced search and, where
it has alternatives, a choice with one clause for each of them. -/
def AsksForEveryTerm (must : List Clause) : Question -> Prop
  | .simple term => must = [.term (simpleClause layout term)]
  | .advanced required alternatives =>
      must = required.map (fun term => .term (groupClause layout term)) ++
        if alternatives = [] then [] else [.anyOf (alternatives.map (groupClause layout))]
  | .proximity first second slop =>
      must = [.term (spanClause layout first second slop)] ∧
        ∃ firstWord secondWord,
          spanClause layout first second slop = .near [firstWord, secondWord] slop false
  | .unsupported _ => False

/-- A compiled question that asks for every term, and for single words only where it asks for
words. -/
structure Compiled.IsWhole (question : Question) (compiled : Compiled) : Prop where
  asks : AsksForEveryTerm layout compiled.must question
  nonempty : compiled.must ≠ []
  mustHolds : ∀ clause ∈ compiled.must, ∀ word ∈ clause.singleWords, Text.IsWord word.toList
  fieldsHold : ∀ entry ∈ compiled.fields, ∀ query, entry.2.query = some query -> query.HoldsWords

/-- A question of a single part is whole when its clause holds single words. -/
theorem isWhole_compileSingle
    {question : Question}
    {part : Part}
    (holds : part.clause.HoldsWords)
    (asks : AsksForEveryTerm layout [.term part.clause] question) :
    (compileSingle layout part).IsWhole layout question where
  asks := asks
  nonempty := List.cons_ne_nil _ _
  mustHolds := by
    intro clause member
    rw [List.mem_singleton.1 member]
    exact holds
  fieldsHold := by
    intro entry member query own
    exact holdsWords_of_mem_highlightFields layout (by simpa using holds) member own

/-- Groups without blank terms are asked for as a whole. -/
theorem isWhole_compileGroups
    {required alternatives : List Term}
    (nonempty : required ≠ [])
    (requiredWhole : ∀ term ∈ required, ¬term.IsBlank)
    (alternativesWhole : ∀ term ∈ alternatives, ¬term.IsBlank) :
    (compileGroups layout required alternatives).IsWhole layout
      (.advanced required alternatives) := by
  have must_eq :
      (compileGroups layout required alternatives).must =
        required.map (fun term => .term (groupClause layout term)) ++
          if alternatives = [] then []
          else [.anyOf (alternatives.map (groupClause layout))] := by
    rw [compileGroups_must, groupClauses_eq_map layout requiredWhole,
      groupClauses_eq_map layout alternativesWhole, List.map_map]
    simp only [List.map_eq_nil_iff]
    rfl
  refine ⟨must_eq, ?_, ?_, ?_⟩
  · rw [must_eq]
    simp [nonempty]
  · intro clause member word isAsked
    rw [must_eq, List.mem_append] at member
    rcases member with ofRequired | ofAlternatives
    · obtain ⟨term, inGroup, rfl⟩ := List.mem_map.1 ofRequired
      exact holdsWords_groupClause layout (requiredWhole term inGroup) word isAsked
    · split at ofAlternatives
      · cases ofAlternatives
      · rw [List.mem_singleton.1 ofAlternatives] at isAsked
        obtain ⟨part, isPart, inPart⟩ := List.mem_flatMap.1 isAsked
        obtain ⟨term, inGroup, rfl⟩ := List.mem_map.1 isPart
        exact holdsWords_groupClause layout (alternativesWhole term inGroup) word inPart
  · intro entry member query own
    refine holdsWords_of_mem_highlightFields layout (fun part isPart => ?_) member own
    rcases List.mem_append.1 isPart with ofRequired | ofAlternatives
    · exact holdsWords_of_mem_parts layout requiredWhole part ofRequired
    · exact holdsWords_of_mem_parts layout alternativesWhole part ofAlternatives

/-- A simple search for a term that is not blank has a part. -/
theorem exists_simplePart
    {term : Term}
    (notBlank : ¬term.IsBlank) :
    ∃ part, simplePart layout term = .ok part := by
  unfold simplePart
  simp only [isEmpty_normalize_eq_false notBlank, Bool.false_eq_true, if_false]
  split <;> exact ⟨_, rfl⟩

/-- A proximity search for two terms that are not blank has a part. -/
theorem exists_proximityPart
    {first second : Term}
    {slop : Int}
    (firstNotBlank : ¬first.IsBlank)
    (secondNotBlank : ¬second.IsBlank)
    (natural : 0 ≤ slop) :
    ∃ part, proximityPart layout first second slop = .ok part := by
  unfold proximityPart
  simp only [isEmpty_normalize_eq_false firstNotBlank, isEmpty_normalize_eq_false secondNotBlank,
    Bool.false_eq_true, or_self, if_false, if_neg (Int.not_lt.2 natural)]
  split <;> exact ⟨_, rfl⟩

/-- A whole question compiles, and is compiled as a whole. -/
theorem exists_compileQuestion
    {question : Question}
    (whole : question.IsWhole) :
    ∃ compiled, compileQuestion layout question = .ok compiled ∧
      compiled.IsWhole layout question := by
  cases question with
  | simple term =>
      obtain ⟨part, found⟩ := exists_simplePart layout whole
      have clause_eq := clause_of_simplePart layout found
      refine ⟨_, by rw [compileQuestion, found]; rfl, isWhole_compileSingle layout ?_ ?_⟩
      · rw [clause_eq]
        exact holdsWords_simpleClause layout term
      · rw [clause_eq]
        rfl
  | advanced required alternatives =>
      exact ⟨_, rfl, isWhole_compileGroups layout whole.1 whole.2.1 whole.2.2⟩
  | proximity first second slop =>
      obtain ⟨firstSingle, secondSingle, natural⟩ := whole
      obtain ⟨part, found⟩ := exists_proximityPart layout (not_isBlank_of_single firstSingle)
        (not_isBlank_of_single secondSingle) natural
      obtain ⟨firstWord, secondWord, span_eq, firstIsWord, secondIsWord⟩ :=
        exists_spanClause_eq layout firstSingle secondSingle slop
      have clause_eq := clause_of_proximityPart layout found
      refine ⟨_, by rw [compileQuestion, found]; rfl, isWhole_compileSingle layout ?_ ?_⟩
      · rw [clause_eq, span_eq]
        simpa [TermClause.HoldsWords, TermClause.singleWords] using
          And.intro firstIsWord secondIsWord
      · rw [clause_eq]
        exact ⟨rfl, firstWord, secondWord, span_eq⟩
  | unsupported mode => exact whole.elim

/-- A search that passes the check compiles for every page and all sizes. Its query asks for every
term, none of which is left out as blank, and the words of its spans and its patterns, wherever they
stand in the query, are single words. -/
theorem well_shaped_search_compiles
    {search : Search}
    (passes : search.check = .ok ())
    {page batchSize pageSize : Int}
    (pagePositive : 1 ≤ page)
    (batchPositive : 0 < batchSize)
    (sizePositive : 0 < pageSize) :
    ∃ query, compile layout search page batchSize pageSize = .ok query ∧
      query.must ≠ [] ∧
      AsksForEveryTerm layout query.must search.question ∧
      ∀ word ∈ query.singleWords, Text.IsWord word.toList := by
  obtain ⟨compiled, compiles, whole⟩ :=
    exists_compileQuestion layout (Search.isWhole_of_check passes)
  refine ⟨_, (compile_eq_ok_iff layout search page batchSize pageSize _).2
    ⟨pagePositive, batchPositive, sizePositive, compiled, compiles, whole.nonempty, rfl⟩,
    whole.nonempty, whole.asks, ?_⟩
  intro word member
  rw [singleWords, List.mem_append, List.mem_flatMap, List.mem_flatMap] at member
  rcases member with ⟨clause, inClauses, isAsked⟩ | ⟨entry, inFields, isAsked⟩
  · rw [List.mem_append] at inClauses
    rcases inClauses with inMust | inFilter
    · exact whole.mustHolds clause (by simpa [ofCompiled] using inMust) word isAsked
    · simp only [ofCompiled, textFilter] at inFilter
      split at inFilter
      · cases inFilter
      · rw [List.mem_singleton.1 inFilter] at isAsked
        cases isAsked
  · obtain ⟨query, own, inQuery⟩ := List.mem_flatMap.1 isAsked
    exact whole.fieldsHold entry inFields query (by simpa using own) word inQuery

end Clauses

/-- Searches with blanks of several kinds around and between their words. -/
def spacedSearch : Search :=
  { question := .advanced
      [{ text := "\u2003ab*\u00A0cd " }, { text := "k t\tb", matching := .root }]
      [{ text := "one\ntwo" }, { text := "?ne", matching := .token true false }] }

/-- Each of these terms has its clause, and the words that are asked for have lost their blanks. -/
theorem spacedSearch_compiles :
    spacedSearch.check = .ok () ∧
      ∃ query, compile {} spacedSearch 3 20 10 = .ok query ∧
        query.must.length = 3 ∧
        query.singleWords =
          ["ab*", "cd", "k.t.b.", "?ne", "k.t.b.", "?ne"] ∧
        ∀ word ∈ query.singleWords, Text.IsWord word.toList := by
  have passes : spacedSearch.check = .ok () := by rfl
  have summary :
      (compile {} spacedSearch 3 20 10).toOption.map
          (fun query => (query.must.length, query.singleWords)) =
        some (3, ["ab*", "cd", "k.t.b.", "?ne", "k.t.b.", "?ne"]) := by
    rfl
  obtain ⟨query, compiles, _, _, hold⟩ :=
    @well_shaped_search_compiles {} spacedSearch passes 3 20 10 (by decide) (by decide) (by decide)
  rw [compiles] at summary
  simp only [Except.toOption, Option.map_some, Option.some.injEq, Prod.mk.injEq] at summary
  exact ⟨passes, query, compiles, summary.1, summary.2, hold⟩

end Query
end Concordance
