import Concordance.Proofs.Query.Highlighting
import Concordance.Proofs.Query.Leaves
import Concordance.Proofs.Query.WellShaped

/-!
# Searched fields and highlighted fields

Every part of a question looks in its field and nowhere else. The clauses of a query and the
highlighting of its fields are made of the same parts, so the fields that are searched are the
fields that are highlighted, also where fields have the same name.
-/

namespace Concordance

/-- A term that was made for an index and with modifiers, whatever its text and its group. -/
def Term.MadeFor (term : Term) (indexName : String) (definite proclitic : Bool) : Prop :=
  ∃ text groupTag, ofParts text indexName definite proclitic groupTag = .ok term

/-- A term is matched in the index that it was made for, and as a root without modifiers. -/
theorem Term.MadeFor.matching_cases
    {term : Term}
    {indexName : String}
    {definite proclitic : Bool}
    (made : term.MadeFor indexName definite proclitic) :
    (indexName = "tok" ∧ term.matching = .token definite proclitic) ∨
      (indexName = "root" ∧ term.matching = .root) := by
  obtain ⟨text, groupTag, made⟩ := made
  have named : Matching.ofIndexName? indexName definite proclitic = some term.matching := by
    unfold ofParts at made
    split at made
    · cases made
    next matching named =>
      split at made
      · cases made
        exact named
      · split at made
        · cases made
        · cases made
          exact named
  unfold Matching.ofIndexName? at named
  split at named
  next tokens => exact .inl ⟨tokens, (Option.some.inj named).symm⟩
  next =>
    split at named
    next roots => exact .inr ⟨roots, (Option.some.inj named).symm⟩
    next => cases named

namespace Query

/-- The fields that the leaves of clauses name. -/
def searchedFields (clauses : List Clause) : List String :=
  ((clauses.map Clause.body).flatMap leaves).map Leaf.field

/-- A clause looks in one field and nowhere else. -/
def LooksIn (clause : TermClause) (field : String) : Prop :=
  ∀ name, name ∈ (leaves clause.body).map Leaf.field ↔ name = field

theorem phrase_looksIn (field text : String) : LooksIn (.phrase field text) field := by
  simp [LooksIn, phraseLeaf]

theorem pattern_looksIn (field value : String) : LooksIn (.pattern field value) field := by
  simp [LooksIn, TermClause.body, patternLeaf]

/-- A span looks where its words look. -/
theorem near_looksIn
    {words : List SpanWord}
    {field : String}
    (nonempty : words ≠ [])
    (inField : ∀ word ∈ words, (wordLeaf word).field = field)
    (slop : Int)
    (inOrder : Bool) :
    LooksIn (.near words slop inOrder) field := by
  intro name
  simp only [leaves_near, List.map_map, List.mem_map, Function.comp_apply]
  constructor
  · rintro ⟨word, member, rfl⟩
    exact inField word member
  · rintro rfl
    obtain ⟨word, member⟩ := List.exists_mem_of_ne_nil words nonempty
    exact ⟨word, member, inField word member⟩

/-- The clause of a token term looks in the field of the term. -/
theorem tokenClause_looksIn (text field : String) : LooksIn (tokenClause text field) field := by
  unfold tokenClause
  simp only
  split
  · split
    · exact pattern_looksIn field text
    · exact phrase_looksIn field text
  · split
    next someOpen =>
      refine near_looksIn (fun noWords => ?_) ?_ 0 true
      · rw [List.map_eq_nil_iff.1 noWords] at someOpen
        cases someOpen
      · simp [field_spanWord]
    next => exact phrase_looksIn field text

/-- A part looks in its own field. -/
def Part.InField (part : Part) : Prop :=
  LooksIn part.clause part.field

section Parts

variable (layout : Layout)

theorem inField_tokenPart (text : String) (definite proclitic : Bool) :
    (tokenPart layout text definite proclitic).InField := by
  simp only [Part.InField, tokenPart]
  exact tokenClause_looksIn text (layout.tokenField definite proclitic)

/-- The part of a simple search looks in the field of roots for a root, and otherwise in the field
that the modifiers of its term choose. -/
theorem inField_of_simplePart
    {term : Term}
    {part : Part}
    (outcome : simplePart layout term = .ok part) :
    part.InField ∧
      part.field =
        if term.matching.isRoot then layout.rootField
        else layout.tokenField term.matching.definite term.matching.proclitic := by
  unfold simplePart at outcome
  simp only at outcome
  split at outcome
  · cases outcome
  · cases matching : term.matching with
    | token definite proclitic =>
        simp only [matching, Except.ok.injEq] at outcome
        subst outcome
        exact ⟨inField_tokenPart layout _ definite proclitic, rfl⟩
    | root =>
        simp only [matching, Except.ok.injEq] at outcome
        subst outcome
        exact ⟨phrase_looksIn layout.rootField _, rfl⟩

/-- The part of a term in a group looks in its field. -/
theorem inField_of_groupPart?
    {term : Term}
    {part : Part}
    (found : groupPart? layout term = some part) :
    part.InField := by
  unfold groupPart? at found
  simp only at found
  split at found
  · cases found
  · cases matching : term.matching with
    | token definite proclitic =>
        simp only [matching, Option.some.injEq] at found
        subst found
        exact inField_tokenPart layout _ definite proclitic
    | root =>
        simp only [matching, Option.some.injEq] at found
        subst found
        exact pattern_looksIn layout.rootField _

/-- The part of a proximity search looks in the field of roots where one of the terms is a root,
and otherwise in the field that the modifiers of the first term choose. -/
theorem inField_of_proximityPart
    {first second : Term}
    {slop : Int}
    {part : Part}
    (outcome : proximityPart layout first second slop = .ok part) :
    part.InField ∧
      part.field =
        if first.matching.isRoot ∨ second.matching.isRoot then layout.rootField
        else layout.tokenField first.matching.definite first.matching.proclitic := by
  unfold proximityPart at outcome
  simp only at outcome
  split at outcome
  · cases outcome
  split at outcome
  · cases outcome
  split at outcome
  next roots =>
    cases outcome
    rw [if_pos roots]
    exact ⟨near_looksIn (by simp) (by simp [wordLeaf, patternLeaf]) slop false, rfl⟩
  next tokens =>
    cases outcome
    rw [if_neg tokens]
    exact ⟨near_looksIn (by simp) (by simp [field_spanWord]) slop false, rfl⟩

/-- The fields that are highlighted are those of the parts. -/
theorem mem_keys_highlightFields
    (highlighter : String)
    (parts : List Part)
    (name : String) :
    name ∈ (highlightFields layout highlighter parts).keys ↔
      ∃ part ∈ parts, part.field = name := by
  induction parts using List.reverseRecOn with
  | nil => simp [highlightFields, Entries.keys]
  | append_singleton parts part inductionHypothesis =>
      rw [highlightFields, List.foldl_append, List.foldl_cons, List.foldl_nil,
        Entries.mem_keys_put]
      rw [highlightFields] at inductionHypothesis
      simp [inductionHypothesis, or_and_right, exists_or, eq_comm]

/-- What is made of parts in their fields: clauses with the leaves of the parts, and the
highlighting of the fields of the parts. -/
structure Compiled.MadeOf (compiled : Compiled) (highlighter : String) (parts : List Part) :
    Prop where
  inField : ∀ part ∈ parts, part.InField
  fields_eq : compiled.fields = highlightFields layout highlighter parts
  leaves_eq :
    (compiled.must.map Clause.body).flatMap leaves =
      parts.flatMap fun part => leaves part.clause.body

/-- A query of a single part is made of this part. -/
theorem compileSingle_madeOf
    {part : Part}
    (inField : part.InField) :
    (compileSingle layout part).MadeOf layout "plain" [part] where
  inField := by simpa using inField
  fields_eq := rfl
  leaves_eq := rfl

/-- The query of two groups is made of the parts of their terms. -/
theorem compileGroups_madeOf (required alternatives : List Term) :
    (compileGroups layout required alternatives).MadeOf layout "fvh"
      (groupParts layout required alternatives) where
  inField := by
    intro part member
    rcases List.mem_append.1 member with isRequired | isAlternative
    · obtain ⟨term, _, found⟩ := List.mem_filterMap.1 isRequired
      exact inField_of_groupPart? layout found
    · obtain ⟨term, _, found⟩ := List.mem_filterMap.1 isAlternative
      exact inField_of_groupPart? layout found
  fields_eq := rfl
  leaves_eq := by
    unfold compileGroups groupParts
    generalize required.filterMap (groupPart? layout) = requiredParts
    generalize alternatives.filterMap (groupPart? layout) = alternativeParts
    cases alternativeParts with
    | nil => simp [List.flatMap_map]
    | cons part parts => simp [List.flatMap_map]

/-- A question is compiled to what is made of parts. -/
theorem exists_madeOf
    {question : Question}
    {compiled : Compiled}
    (compiles : compileQuestion layout question = .ok compiled) :
    ∃ highlighter parts, compiled.MadeOf layout highlighter parts := by
  cases question with
  | simple term =>
      rw [compileQuestion] at compiles
      obtain ⟨part, found, rfl⟩ := exists_part_of_compileSingle layout compiles
      exact ⟨_, _, compileSingle_madeOf layout (inField_of_simplePart layout found).1⟩
  | advanced required alternatives =>
      cases compiles
      exact ⟨_, _, compileGroups_madeOf layout required alternatives⟩
  | proximity first second slop =>
      rw [compileQuestion] at compiles
      obtain ⟨part, found, rfl⟩ := exists_part_of_compileSingle layout compiles
      exact ⟨_, _, compileSingle_madeOf layout (inField_of_proximityPart layout found).1⟩
  | unsupported mode => cases compiles

end Parts

namespace Compiled.MadeOf

variable {layout : Layout} {compiled : Compiled} {highlighter : String} {parts : List Part}

/-- The fields that are searched are those of the parts. -/
theorem mem_searchedFields_iff
    (made : compiled.MadeOf layout highlighter parts)
    (name : String) :
    name ∈ searchedFields compiled.must ↔ ∃ part ∈ parts, part.field = name := by
  unfold searchedFields
  rw [made.leaves_eq, List.map_flatMap, List.mem_flatMap]
  constructor
  · rintro ⟨part, member, named⟩
    exact ⟨part, member, ((made.inField part member name).1 named).symm⟩
  · rintro ⟨part, member, rfl⟩
    exact ⟨part, member, (made.inField part member part.field).2 rfl⟩

/-- The fields that are searched are those that are highlighted. -/
theorem searched_iff_highlighted
    (made : compiled.MadeOf layout highlighter parts)
    (name : String) :
    name ∈ searchedFields compiled.must ↔ name ∈ compiled.fields.keys := by
  rw [made.mem_searchedFields_iff, made.fields_eq, mem_keys_highlightFields]

/-- A field is highlighted where it matches itself, and by a query that looks in it. -/
theorem highlights_own_field
    (made : compiled.MadeOf layout highlighter parts)
    {name : String}
    {field : HighlightField TermClause}
    (member : (name, field) ∈ compiled.fields) :
    field.matchedFields = [name] ∧
      ∀ clause, field.query = some clause -> ∀ leaf ∈ leaves clause.body, leaf.field = name := by
  rw [made.fields_eq] at member
  obtain ⟨part, inParts, entry_eq⟩ := exists_part_of_mem_highlightFields layout member
  cases entry_eq
  refine ⟨rfl, fun clause own leaf isLeaf => ?_⟩
  rw [← clause_of_highlightQuery? own] at isLeaf
  exact (made.inField part inParts leaf.field).1 (List.mem_map_of_mem isLeaf)

end Compiled.MadeOf

/-- The query of a single part looks in the field of the part. -/
theorem mem_searchedFields_compileSingle
    {layout : Layout}
    {part : Part}
    (inField : part.InField)
    (name : String) :
    name ∈ searchedFields (compileSingle layout part).must ↔ name = part.field := by
  rw [(compileSingle_madeOf layout inField).mem_searchedFields_iff]
  simp [eq_comm]

section Questions

variable
  {layout : Layout}
  {compiled : Compiled}
  {term second : Term}
  {indexName secondIndex : String}
  {definite proclitic secondDefinite secondProclitic : Bool}
  (made : term.MadeFor indexName definite proclitic)

include made

/-- A simple search looks in one field. -/
theorem mem_searchedFields_simple
    (compiles : compileQuestion layout (.simple term) = .ok compiled)
    (name : String) :
    name ∈ searchedFields compiled.must ↔
      name =
        if indexName = "root" then layout.rootField
        else layout.tokenField definite proclitic := by
  rw [compileQuestion] at compiles
  obtain ⟨part, found, rfl⟩ := exists_part_of_compileSingle layout compiles
  obtain ⟨inField, field_eq⟩ := inField_of_simplePart layout found
  rw [mem_searchedFields_compileSingle inField, field_eq]
  rcases made.matching_cases with ⟨rfl, matching⟩ | ⟨rfl, matching⟩ <;>
    simp [matching, Matching.isRoot, Matching.definite, Matching.proclitic]

/-- A proximity search looks in one field. -/
theorem mem_searchedFields_proximity
    {slop : Int}
    (secondMade : second.MadeFor secondIndex secondDefinite secondProclitic)
    (compiles : compileQuestion layout (.proximity term second slop) = .ok compiled)
    (name : String) :
    name ∈ searchedFields compiled.must ↔
      name =
        if indexName = "root" ∨ secondIndex = "root" then layout.rootField
        else layout.tokenField definite proclitic := by
  rw [compileQuestion] at compiles
  obtain ⟨part, found, rfl⟩ := exists_part_of_compileSingle layout compiles
  obtain ⟨inField, field_eq⟩ := inField_of_proximityPart layout found
  rw [mem_searchedFields_compileSingle inField, field_eq]
  rcases made.matching_cases with ⟨rfl, matching⟩ | ⟨rfl, matching⟩ <;>
    rcases secondMade.matching_cases with ⟨rfl, secondMatching⟩ | ⟨rfl, secondMatching⟩ <;>
      simp [matching, secondMatching, Matching.isRoot, Matching.definite, Matching.proclitic]

end Questions

/-- The highlighting of a compiled search covers the fields that the search looks in, and every
field is highlighted by itself. A simple search and a proximity search look in one field: that of
roots as soon as a term was made for roots, whatever its modifiers, and otherwise the one that the
modifiers of the first term choose. -/
theorem highlighting_covers_searched_fields
    {layout : Layout}
    {search : Search}
    {page batchSize pageSize : Int}
    {query : Query}
    (compiles : compile layout search page batchSize pageSize = .ok query) :
    (∀ name, name ∈ searchedFields query.must ↔ name ∈ query.highlight.fields.keys) ∧
      (∀ name field, (name, field) ∈ query.highlight.fields ->
        field.matchedFields = [name] ∧
          ∀ clause, field.query = some clause ->
            ∀ leaf ∈ leaves clause.body, leaf.field = name) ∧
      (∀ term indexName definite proclitic,
        search.question = .simple term ->
        term.MadeFor indexName definite proclitic ->
        ∀ name, name ∈ searchedFields query.must ↔
          name =
            if indexName = "root" then layout.rootField
            else layout.tokenField definite proclitic) ∧
      ∀ first second slop indexName definite proclitic secondIndex secondDefinite secondProclitic,
        search.question = .proximity first second slop ->
        first.MadeFor indexName definite proclitic ->
        second.MadeFor secondIndex secondDefinite secondProclitic ->
        ∀ name, name ∈ searchedFields query.must ↔
          name =
            if indexName = "root" ∨ secondIndex = "root" then layout.rootField
            else layout.tokenField definite proclitic := by
  obtain ⟨_, _, _, compiled, compiledQuestion, _, rfl⟩ :=
    (compile_eq_ok_iff layout search page batchSize pageSize query).1 compiles
  obtain ⟨highlighter, parts, made⟩ := exists_madeOf layout compiledQuestion
  refine ⟨made.searched_iff_highlighted, fun name field => made.highlights_own_field, ?_, ?_⟩
  · intro term indexName definite proclitic asked madeFor
    rw [asked] at compiledQuestion
    exact mem_searchedFields_simple madeFor compiledQuestion
  · intro first second slop indexName definite proclitic _ _ _ asked madeFor secondMadeFor
    rw [asked] at compiledQuestion
    exact mem_searchedFields_proximity madeFor secondMadeFor compiledQuestion

/-- A layout in which roots and plain tokens share a field, and the two modifiers do. -/
def sharedLayout : Layout :=
  { rootField := "page_content", definiteField := "variant", procliticField := "variant" }

/-- A search for terms in shared fields, one of them blank. -/
def sharedSearch : Search :=
  groupSearch [{ text := "ab*" }, { text := " " }]
    [{ text := "ktb", matching := .root }, { text := "ab* cd", matching := .token true false },
      { text := "cd", matching := .token false true }]

/-- A search for a term with modifiers near a root. -/
def nearRootSearch : Search :=
  { question := .proximity { text := "ab", matching := .token true true }
      { text := "ktb", matching := .root } 3 }

/-- Where fields are shared, each of them is searched and highlighted; and a term with modifiers
that stands near a root is searched as a root. -/
theorem shared_fields_are_highlighted :
    (∃ query, compile sharedLayout sharedSearch 1 20 20 = .ok query ∧
      query.highlight.fields.keys = ["page_content", "variant"] ∧
      ∀ name, name ∈ searchedFields query.must ↔ name ∈ query.highlight.fields.keys) ∧
    ∃ query, compile {} nearRootSearch 1 20 20 = .ok query ∧
      ∀ name, name ∈ searchedFields query.must ↔ name = "token_roots" := by
  constructor
  · refine ⟨_, rfl, rfl, ?_⟩
    exact (@highlighting_covers_searched_fields sharedLayout sharedSearch 1 20 20 _ rfl).1
  · refine ⟨_, rfl, ?_⟩
    exact (@highlighting_covers_searched_fields {} nearRootSearch 1 20 20 _ rfl).2.2.2 _ _ _
      "tok" true true "root" true false rfl ⟨"ab", none, rfl⟩ ⟨"ktb", none, rfl⟩

end Query
end Concordance
