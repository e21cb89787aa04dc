import Concordance.Proofs.Phrase
import Concordance.Proofs.Query.Compile

/-!
# What a query asks for

A request body is read by the usual rules. A combination of clauses admits a document when every
`must` and every `filter` clause admits it and enough of the `should` clauses do; how many are
enough is said by the combination, and is otherwise one where it has nothing else. A list of
terms admits a document whose value of the field is one of them. Which documents any other clause
admits is left open.

The main statement says that the body of a compiled search admits the documents that the search
asks for, whatever the clauses of its terms admit.
-/

namespace Concordance
namespace Query

/-- What is known of documents: which of them a clause without parts admits, and the integers
that they have in their fields. -/
structure Reading (δ : Type) where
  holds : Value -> δ -> Bool
  number : String -> δ -> Int

/-- The number of `should` clauses that have to admit a document. -/
def leastShould (entries : Entries Value) (must should filter : List Bool) : Int :=
  match Value.field entries "minimum_should_match" with
  | .int least => least
  | _ => if must.isEmpty && filter.isEmpty && !should.isEmpty then 1 else 0

/-- Whether a combination admits a document that its clauses admit or not. -/
def combined (entries : Entries Value) (truths : Entries (List Bool)) : Bool :=
  let must := (truths.get? "must").getD []
  let should := (truths.get? "should").getD []
  let filter := (truths.get? "filter").getD []
  must.all id && filter.all id &&
    decide (leastShould entries must should filter ≤ (should.count true : Int))

/-- Whether one of the integers of a list of terms is a given one. -/
def listed (entries : Entries Value) (number : String -> Int) : Bool :=
  entries.any fun (field, values) =>
    match values with
    | .list items => items.any fun item =>
        match item with
        | .int value => value == number field
        | _ => false
    | _ => false

namespace Reading

variable {δ : Type} (reading : Reading δ) (document : δ)

mutual

/-- Whether a clause admits a document. -/
def admits : Value -> Bool
  | .obj [(kind, .obj entries)] =>
      if kind = "bool" then combined entries (sectionTruths entries)
      else if kind = "terms" then listed entries fun field => reading.number field document
      else reading.holds (.obj [(kind, .obj entries)]) document
  | clause => reading.holds clause document

/-- Which clauses of the lists of a combination admit a document. -/
def sectionTruths : List (String × Value) -> List (String × List Bool)
  | [] => []
  | (name, .list clauses) :: rest => (name, truths clauses) :: sectionTruths rest
  | _ :: rest => sectionTruths rest

/-- Which clauses of a list admit a document. -/
def truths : List Value -> List Bool
  | [] => []
  | clause :: clauses => admits clause :: truths clauses

end

theorem truths_eq_map (clauses : List Value) :
    reading.truths document clauses = clauses.map (reading.admits document) := by
  induction clauses with
  | nil => rfl
  | cons clause clauses inductionHypothesis =>
      simp only [truths, inductionHypothesis, List.map_cons]

theorem admits_termClause (clause : TermClause) :
    reading.admits document clause.body = reading.holds clause.body document := by
  cases clause with
  | phrase field text => simp [TermClause.body, admits]
  | pattern field value => simp [TermClause.body, patternBody, admits]
  | near words slop inOrder => simp [TermClause.body, admits]

/-- A choice admits the documents that one of its clauses admits. -/
theorem admits_anyOf (clauses : List TermClause) :
    reading.admits document (Clause.anyOf clauses).body =
      clauses.any fun clause => reading.holds clause.body document := by
  have truths_eq :
      reading.truths document (clauses.map TermClause.body) =
        clauses.map fun clause => reading.holds clause.body document := by
    rw [truths_eq_map, List.map_map]
    apply List.map_congr_left
    intro clause _
    exact reading.admits_termClause document clause
  have enough :
      (1 ≤ ((clauses.map fun clause => reading.holds clause.body document).count true : Int)) ↔
        ∃ clause ∈ clauses, reading.holds clause.body document = true := by
    calc
      (1 ≤ ((clauses.map fun clause => reading.holds clause.body document).count true : Int))
      _ ↔ 0 < (clauses.map fun clause => reading.holds clause.body document).count true := by
        omega
      _ ↔ ∃ clause ∈ clauses, reading.holds clause.body document = true :=
        List.count_pos_iff.trans List.mem_map
  rw [Bool.eq_iff_iff, List.any_eq_true, ← enough]
  simp [Clause.body, admits, sectionTruths, truths_eq, combined, leastShould, Value.field]

theorem admits_texts (field : String) (ids : List Int) :
    reading.admits document (Clause.texts field ids).body =
      decide (reading.number field document ∈ ids) := by
  rw [Bool.eq_iff_iff]
  simp [Clause.body, admits, listed]

/-- Whether a document is among the hits of a request body. -/
def admitsBody (body : Entries Value) : Bool :=
  reading.admits document (Value.field body "query")

/-- A request without top-level `should` clauses finds the documents that all its other clauses
admit. -/
theorem admitsBody_bodyEntries
    (query : Query)
    (noShould : query.should = []) :
    reading.admitsBody document query.bodyEntries = true ↔
      ∀ clause ∈ query.must ++ query.filter, reading.admits document clause.body = true := by
  unfold admitsBody SearchRequest.bodyEntries
  rw [noShould]
  simp [Value.field, admits, sectionTruths, truths_eq_map, combined, leastShould,
    InBody.toValue, or_imp, forall_and]

end Reading
end Query

/-- A term without a word. -/
def Term.IsBlank (term : Term) : Prop :=
  ∀ character ∈ term.text.toList, Text.isBlank character = true

instance : DecidablePred Term.IsBlank := fun term =>
  List.decidableBAll (fun character => Text.isBlank character = true) term.text.toList

namespace Query

section Clauses

variable (layout : Layout)

/-- The clause of the term of a simple search. -/
def simpleClause (term : Term) : TermClause :=
  match term.matching with
  | .root => .phrase layout.rootField (Root.pattern (Phrase.normalize term.text))
  | .token definite proclitic =>
      tokenClause (Phrase.normalize term.text) (layout.tokenField definite proclitic)

/-- The clause of a term of an advanced search. -/
def groupClause (term : Term) : TermClause :=
  match term.matching with
  | .root => .pattern layout.rootField (Root.pattern (Phrase.normalize term.text))
  | .token definite proclitic =>
      tokenClause (Phrase.normalize term.text) (layout.tokenField definite proclitic)

/-- The span of the two terms of a proximity search. -/
def spanClause (first second : Term) (slop : Int) : TermClause :=
  let texts := [Phrase.normalize first.text, Phrase.normalize second.text]
  if first.matching.isRoot ∨ second.matching.isRoot then
    .near (texts.map fun text => .pattern layout.rootField (Root.pattern text)) slop false
  else
    .near
      (texts.map (spanWord
        (layout.tokenField first.matching.definite first.matching.proclitic)))
      slop false

/-- The part of a simple search has the clause of its term. -/
theorem clause_of_simplePart
    {term : Term}
    {part : Part}
    (outcome : simplePart layout term = .ok part) :
    part.clause = simpleClause layout term := by
  cases empty : (Phrase.normalize term.text).isEmpty with
  | true =>
      simp only [simplePart, empty, if_true] at outcome
      cases outcome
  | false =>
      cases matching : term.matching <;>
        simp only [simplePart, empty, matching, Bool.false_eq_true, if_false,
          Except.ok.injEq] at outcome <;>
        simp only [simpleClause, matching, ← outcome, tokenPart]

/-- A term of an advanced search has a clause exactly when it is not blank. -/
theorem groupPart?_map_clause_eq_some_iff (term : Term) (clause : TermClause) :
    (groupPart? layout term).map Part.clause = some clause ↔
      ¬term.IsBlank ∧ groupClause layout term = clause := by
  unfold Term.IsBlank
  rw [← Phrase.isEmpty_normalize_iff]
  cases empty : (Phrase.normalize term.text).isEmpty with
  | true => simp only [groupPart?, empty, if_true, Option.map_none, reduceCtorEq, not_true,
      false_and]
  | false =>
      cases matching : term.matching <;>
        simp [groupPart?, groupClause, empty, matching, tokenPart]

/-- The part of a proximity search has the span of its terms. -/
theorem clause_of_proximityPart
    {first second : Term}
    {slop : Int}
    {part : Part}
    (outcome : proximityPart layout first second slop = .ok part) :
    part.clause = spanClause layout first second slop := by
  unfold proximityPart at outcome
  unfold spanClause
  simp only at outcome
  split at outcome
  · cases outcome
  split at outcome
  · cases outcome
  split at outcome
  next roots =>
    rw [if_pos roots]
    cases outcome
    rfl
  next tokens =>
    rw [if_neg tokens]
    cases outcome
    rfl

/-- A question of a single part is compiled to the query of the part. -/
theorem exists_part_of_compileSingle
    {outcome : Except CompileError Part}
    {compiled : Compiled}
    (compiles : outcome.map (compileSingle layout) = .ok compiled) :
    ∃ part, outcome = .ok part ∧ compiled = compileSingle layout part := by
  cases outcome with
  | error cause => cases compiles
  | ok part =>
      cases compiles
      exact ⟨part, rfl, rfl⟩

/-- The clauses of a group, in the order of its terms. -/
def groupClauses (terms : List Term) : List TermClause :=
  (terms.filterMap (groupPart? layout)).map Part.clause

theorem mem_groupClauses (terms : List Term) (clause : TermClause) :
    clause ∈ groupClauses layout terms ↔
      ∃ term ∈ terms, ¬term.IsBlank ∧ groupClause layout term = clause := by
  unfold groupClauses
  rw [List.map_filterMap, List.mem_filterMap]
  simp only [groupPart?_map_clause_eq_some_iff]

/-- What holds of all clauses of a group holds of the clauses of its terms that are not blank. -/
theorem forall_mem_groupClauses (terms : List Term) (P : TermClause -> Prop) :
    (∀ clause ∈ groupClauses layout terms, P clause) ↔
      ∀ term ∈ terms, ¬term.IsBlank -> P (groupClause layout term) := by
  simp only [mem_groupClauses]
  constructor
  · intro ofClauses term member notBlank
    exact ofClauses _ ⟨term, member, notBlank, rfl⟩
  · rintro ofTerms _ ⟨term, member, notBlank, rfl⟩
    exact ofTerms term member notBlank

/-- What holds of a clause of a group holds of the clause of a term that is not blank. -/
theorem exists_mem_groupClauses (terms : List Term) (P : TermClause -> Prop) :
    (∃ clause ∈ groupClauses layout terms, P clause) ↔
      ∃ term ∈ terms, ¬term.IsBlank ∧ P (groupClause layout term) := by
  simp only [mem_groupClauses]
  constructor
  · rintro ⟨_, ⟨term, member, notBlank, rfl⟩, holds⟩
    exact ⟨term, member, notBlank, holds⟩
  · rintro ⟨term, member, notBlank, holds⟩
    exact ⟨_, ⟨term, member, notBlank, rfl⟩, holds⟩

theorem groupClauses_ne_nil_iff (terms : List Term) :
    groupClauses layout terms ≠ [] ↔ ∃ term ∈ terms, ¬term.IsBlank := by
  rw [← List.length_pos_iff, List.length_pos_iff_exists_mem]
  simpa using exists_mem_groupClauses layout terms fun _ => True

/-- An advanced search asks for the clauses of its required terms, and for a choice among those of
the alternatives where there are any. -/
theorem compileGroups_must (required alternatives : List Term) :
    (compileGroups layout required alternatives).must =
      (groupClauses layout required).map Clause.term ++
        if groupClauses layout alternatives = [] then []
        else [.anyOf (groupClauses layout alternatives)] := by
  unfold compileGroups groupClauses
  simp

end Clauses

section Meaning

variable {δ : Type} (layout : Layout) (reading : Reading δ) (document : δ)

/-- Whether a document is one that a question asks for. -/
def Answers : Question -> Prop
  | .simple term => reading.holds (simpleClause layout term).body document = true
  | .advanced required alternatives =>
      (∀ term ∈ required, ¬term.IsBlank ->
        reading.holds (groupClause layout term).body document = true) ∧
      ((∃ term ∈ alternatives, ¬term.IsBlank) ->
        ∃ term ∈ alternatives, ¬term.IsBlank ∧
          reading.holds (groupClause layout term).body document = true)
  | .proximity first second slop =>
      reading.holds (spanClause layout first second slop).body document = true
  | .unsupported _ => False

/-- The `must` clauses of an advanced search admit the documents that it asks for. -/
theorem admits_compileGroups_iff (required alternatives : List Term) :
    (∀ clause ∈ (compileGroups layout required alternatives).must,
        reading.admits document clause.body = true) ↔
      Answers layout reading document (.advanced required alternatives) := by
  rw [compileGroups_must, List.forall_mem_append]
  unfold Answers
  apply and_congr
  · rw [List.forall_mem_map]
    simp only [Clause.body, reading.admits_termClause]
    exact forall_mem_groupClauses layout required fun clause =>
      reading.holds clause.body document = true
  · rw [← groupClauses_ne_nil_iff layout alternatives]
    by_cases noChoice : groupClauses layout alternatives = []
    · simp [noChoice]
    · rw [if_neg noChoice, List.forall_mem_singleton, reading.admits_anyOf, List.any_eq_true]
      simp only [ne_eq, noChoice, not_false_eq_true, true_implies]
      exact exists_mem_groupClauses layout alternatives fun clause =>
        reading.holds clause.body document = true

/-- The `must` clauses of a question admit the documents that it asks for. -/
theorem admits_compileQuestion_iff
    {question : Question}
    {compiled : Compiled}
    (outcome : compileQuestion layout question = .ok compiled) :
    (∀ clause ∈ compiled.must, reading.admits document clause.body = true) ↔
      Answers layout reading document question := by
  cases question with
  | simple term =>
      rw [compileQuestion] at outcome
      obtain ⟨part, found, rfl⟩ := exists_part_of_compileSingle layout outcome
      rw [compileSingle, List.forall_mem_singleton, clause_of_simplePart layout found]
      simp only [Clause.body, reading.admits_termClause, Answers]
  | advanced required alternatives =>
      cases outcome
      exact admits_compileGroups_iff layout reading document required alternatives
  | proximity first second slop =>
      rw [compileQuestion] at outcome
      obtain ⟨part, found, rfl⟩ := exists_part_of_compileSingle layout outcome
      rw [compileSingle, List.forall_mem_singleton, clause_of_proximityPart layout found]
      simp only [Clause.body, reading.admits_termClause, Answers]
  | unsupported mode => cases outcome

/-- The filter of a search admits the documents of its texts. -/
theorem admits_textFilter_iff (texts : List Int) :
    (∀ clause ∈ textFilter layout texts, reading.admits document clause.body = true) ↔
      (texts ≠ [] -> reading.number layout.idField document ∈ texts) := by
  unfold textFilter
  by_cases noTexts : texts = []
  · simp [noTexts]
  · simp [noTexts, reading.admits_texts]

/-- A compiled search finds exactly the documents that the search asks for: those that answer its
question and, where texts are selected, belong to one of them. -/
theorem compiled_search_keeps_meaning
    (search : Search)
    (page batchSize pageSize : Int)
    (query : Query)
    (compiles : compile layout search page batchSize pageSize = .ok query) :
    reading.admitsBody document query.bodyEntries = true ↔
      Answers layout reading document search.question ∧
        (search.texts ≠ [] -> reading.number layout.idField document ∈ search.texts) := by
  obtain ⟨_, _, _, compiled, question, _, rfl⟩ :=
    (compile_eq_ok_iff layout search page batchSize pageSize query).1 compiles
  rw [reading.admitsBody_bodyEntries document _ rfl, List.forall_mem_append]
  apply and_congr
  · exact admits_compileQuestion_iff layout reading document question
  · exact admits_textFilter_iff layout reading document search.texts

end Meaning

/-- An advanced search with blank terms in both groups, among two texts. -/
def blankedSearch : Search :=
  { question := .advanced
      [{ text := "qala" }, { text := " " }]
      [{ text := "" }, { text := "k?tab" }, { text := "ktb", matching := .root }]
    texts := [3, 4] }

/-- Documents that are known by their text and by the kinds of clauses that admit them. -/
def kindReading : Reading (Int × List String) where
  holds clause document :=
    match clause with
    | .obj [(kind, _)] => document.2.contains kind
    | _ => false
  number _ document := document.1

/-- The blank terms of a search ask for nothing, and one of the other alternatives is enough. -/
theorem blankedSearch_keeps_meaning :
    ∃ query, compile {} blankedSearch 1 20 20 = .ok query ∧
      kindReading.admitsBody (4, ["match_phrase", "wildcard"]) query.bodyEntries = true ∧
      kindReading.admitsBody (4, ["match_phrase"]) query.bodyEntries ≠ true ∧
      kindReading.admitsBody (5, ["match_phrase", "wildcard"]) query.bodyEntries ≠ true := by
  have compiles :
      compile {} blankedSearch 1 20 20 =
        .ok (ofCompiled {} blankedSearch
          (compileGroups {} [{ text := "qala" }, { text := " " }]
            [{ text := "" }, { text := "k?tab" }, { text := "ktb", matching := .root }]) 0 20) := by
    rfl
  refine ⟨_, compiles, ?_, ?_, ?_⟩
  · apply (compiled_search_keeps_meaning {} kindReading _ blankedSearch 1 20 20 _ compiles).2
    simp only [Answers, blankedSearch]
    decide
  · rw [ne_eq, compiled_search_keeps_meaning {} kindReading _ blankedSearch 1 20 20 _ compiles]
    simp only [Answers, blankedSearch]
    decide
  · rw [ne_eq, compiled_search_keeps_meaning {} kindReading _ blankedSearch 1 20 20 _ compiles]
    simp only [Answers, blankedSearch]
    decide

end Query
end Concordance
