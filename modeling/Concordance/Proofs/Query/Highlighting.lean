import Mathlib.Data.List.Induction
import Concordance.Proofs.Query.Compile

/-!
# Which terms are highlighted

The terms of an advanced search are highlighted field by field. A field is highlighted by one
query at most, so a term keeps its highlighting when the query of its field contains the clause
of the term. A phrase is also highlighted where its field has no query of its own, since the
search itself is highlighted then.

The last term of a field decides about the whole field. The main statement says which searches
nevertheless highlight all their terms.
-/

namespace Concordance

/-- A value stands in another one: it is the whole of it, or stands in one of its items or
entries. -/
inductive Value.StandsIn (inner : Value) : Value -> Prop
  | whole : StandsIn inner inner
  | item {items : List Value} {item : Value} :
      item ∈ items -> StandsIn inner item -> StandsIn inner (.list items)
  | entry {entries : List (String × Value)} {name : String} {value : Value} :
      (name, value) ∈ entries -> StandsIn inner value -> StandsIn inner (.obj entries)

namespace Value

variable (inner : Value)

/-- In a value without items and entries stands only the value itself. -/
theorem standsIn_iff_eq
    {value : Value}
    (noItems : ∀ items, value ≠ .list items)
    (noEntries : ∀ entries, value ≠ .obj entries) :
    inner.StandsIn value ↔ inner = value := by
  constructor
  · rintro (_ | _ | _)
    · rfl
    · exact absurd rfl (noItems _)
    · exact absurd rfl (noEntries _)
  · rintro rfl
    exact .whole

@[simp] theorem standsIn_bool (truth : Bool) :
    inner.StandsIn (.bool truth) ↔ inner = .bool truth :=
  inner.standsIn_iff_eq nofun nofun

@[simp] theorem standsIn_int (number : Int) :
    inner.StandsIn (.int number) ↔ inner = .int number :=
  inner.standsIn_iff_eq nofun nofun

@[simp] theorem standsIn_str (text : String) :
    inner.StandsIn (.str text) ↔ inner = .str text :=
  inner.standsIn_iff_eq nofun nofun

/-- A value stands in a list as the list itself or in one of its items. -/
theorem standsIn_list (items : List Value) :
    inner.StandsIn (.list items) ↔
      inner = .list items ∨ ∃ item ∈ items, inner.StandsIn item := by
  constructor
  · rintro (_ | ⟨member, inItem⟩)
    · exact .inl rfl
    · exact .inr ⟨_, member, inItem⟩
  · rintro (rfl | ⟨_, member, inItem⟩)
    · exact .whole
    · exact .item member inItem

/-- A value stands in an object as the object itself or in one of its entries. -/
theorem standsIn_obj (entries : List (String × Value)) :
    inner.StandsIn (.obj entries) ↔
      inner = .obj entries ∨ ∃ entry ∈ entries, inner.StandsIn entry.2 := by
  constructor
  · rintro (_ | _ | ⟨member, inEntry⟩)
    · exact .inl rfl
    · exact .inr ⟨_, member, inEntry⟩
  · rintro (rfl | ⟨_, member, inEntry⟩)
    · exact .whole
    · exact .entry member inEntry

end Value

theorem SpanWord.body_injective : Function.Injective SpanWord.body := by
  intro word other same
  cases word <;> cases other <;> simp_all [SpanWord.body, patternBody]

namespace TermClause

/-- The words of a span. -/
def words : TermClause -> List SpanWord
  | .near words _ _ => words
  | _ => []

/-- Whether a clause is a phrase. -/
def isPhrase : TermClause -> Bool
  | .phrase .. => true
  | _ => false

/-- A clause covers itself, and a span the patterns among its words. -/
def Covers (query clause : TermClause) : Prop :=
  clause = query ∨
    ∃ field value, clause = .pattern field value ∧ SpanWord.pattern field value ∈ query.words

theorem body_injective : Function.Injective body := by
  intro clause other same
  cases clause <;> cases other <;>
    simp_all [body, patternBody, List.map_inj_right SpanWord.body_injective]

/-- In the body of a word stands no clause but the pattern of the word. -/
theorem body_standsIn_word_iff (clause : TermClause) (word : SpanWord) :
    clause.body.StandsIn word.body ↔
      ∃ field value, clause = .pattern field value ∧ word = .pattern field value := by
  cases word <;> cases clause <;>
    simp [SpanWord.body, body, patternBody, Value.standsIn_obj]

/-- The clauses that stand in the body of a clause are those that it covers. -/
theorem body_standsIn_body_iff (clause query : TermClause) :
    clause.body.StandsIn query.body ↔ query.Covers clause := by
  have whole : clause = query ↔ clause.body = query.body := body_injective.eq_iff.symm
  unfold Covers
  rw [whole]
  cases query with
  | phrase field text =>
      cases clause <;> simp [body, patternBody, words, Value.standsIn_obj]
  | pattern field value =>
      cases clause <;> simp [body, patternBody, words, Value.standsIn_obj]
  | near spanWords slop inOrder =>
      have inWords :
          clause.body.StandsIn (.list (spanWords.map SpanWord.body)) ↔
            ∃ field value, clause = .pattern field value ∧
              SpanWord.pattern field value ∈ spanWords := by
        have notList : clause.body ≠ .list (spanWords.map SpanWord.body) := by
          cases clause <;> simp [body, patternBody]
        simp only [Value.standsIn_list, notList, false_or]
        constructor
        · rintro ⟨_, mapped, inWord⟩
          obtain ⟨word, member, rfl⟩ := List.mem_map.1 mapped
          obtain ⟨field, value, rfl, rfl⟩ := (body_standsIn_word_iff clause word).1 inWord
          exact ⟨field, value, rfl, member⟩
        · rintro ⟨field, value, rfl, member⟩
          exact ⟨_, List.mem_map_of_mem member,
            (body_standsIn_word_iff _ _).2 ⟨field, value, rfl, rfl⟩⟩
      cases clause <;> simp_all [body, patternBody, words, Value.standsIn_obj]

end TermClause

namespace Query

section Fields

variable (layout : Layout)

/-- The parts of the terms of an advanced search that are not blank, required terms first. -/
def groupParts (required alternatives : List Term) : List Part :=
  required.filterMap (groupPart? layout) ++ alternatives.filterMap (groupPart? layout)

/-- The last part in a field. -/
def lastPart? (parts : List Part) (field : String) : Option Part :=
  (parts.filter fun part => part.field = field).getLast?

/-- The last part in a field is the newest one, where that is in the field. -/
theorem lastPart?_concat (parts : List Part) (part : Part) (field : String) :
    lastPart? (parts ++ [part]) field =
      if part.field = field then some part else lastPart? parts field := by
  unfold lastPart?
  by_cases same : part.field = field <;> simp [List.filter_append, same]

/-- A field in which a part stands has a last part. -/
theorem exists_lastPart?
    {parts : List Part}
    {part : Part}
    (member : part ∈ parts) :
    ∃ last, lastPart? parts part.field = some last := by
  have inField : part ∈ parts.filter fun other => other.field = part.field := by
    simp [member]
  exact Option.ne_none_iff_exists'.1 fun none_eq =>
    List.ne_nil_of_mem inField (List.getLast?_eq_none_iff.1 none_eq)

/-- Parts added to some fields exchange the highlighting of these fields and leave that of the
others. -/
theorem get?_highlightFields
    (highlighter : String)
    (parts : List Part)
    (field : String) :
    (highlightFields layout highlighter parts).get? field =
      (lastPart? parts field).map (highlightField layout highlighter) := by
  -- From the end, since each part overwrites the entry of the parts before it in its field.
  induction parts using List.reverseRecOn with
  | nil => rfl
  | append_singleton parts part inductionHypothesis =>
      rw [highlightFields, List.foldl_append, List.foldl_cons, List.foldl_nil, Entries.get?_put,
        lastPart?_concat]
      split
      · rfl
      · exact inductionHypothesis

end Fields

/-- The query that highlights a field, where it has one of its own. -/
def queryOf? (highlight : Highlight TermClause) (field : String) : Option TermClause :=
  (highlight.fields.get? field).bind HighlightField.query

/-- Whether the clause of a part is highlighted. The query that highlights its field contains
it; a phrase is also highlighted where the field has no query of its own. -/
def KeepsHighlighting (highlight : Highlight TermClause) (part : Part) : Prop :=
  if part.clause.isPhrase then
    ∀ query, queryOf? highlight part.field = some query -> part.clause.body.StandsIn query.body
  else
    ∃ query, queryOf? highlight part.field = some query ∧ part.clause.body.StandsIn query.body

/-- A part does not suffer from a later one in its field: the later one covers it, or both are
phrases. -/
def Spares (later part : Part) : Prop :=
  later.clause.Covers part.clause ∨ (later.clause.isPhrase ∧ part.clause.isPhrase)

/-- A phrase needs no query to highlight it, and every other clause is its own. -/
theorem highlightQuery?_eq (clause : TermClause) :
    highlightQuery? clause = if clause.isPhrase then none else some clause := by
  cases clause <;> rfl

/-- A phrase covers phrases only. -/
theorem isPhrase_of_covers
    {query clause : TermClause}
    (covers : query.Covers clause)
    (phrase : query.isPhrase = true) :
    clause.isPhrase = true := by
  rcases covers with rfl | ⟨field, value, rfl, member⟩
  · exact phrase
  · cases query <;> simp_all [TermClause.isPhrase, TermClause.words]

/-- A part is highlighted exactly when the last part of its field spares it. -/
theorem keepsHighlighting_iff
    (layout : Layout)
    {highlighter : String}
    {highlight : Highlight TermClause}
    {part last : Part}
    (entry :
      highlight.fields.get? part.field = some (highlightField layout highlighter last)) :
    KeepsHighlighting highlight part ↔ Spares last part := by
  have own :
      queryOf? highlight part.field =
        if last.clause.isPhrase then none else some last.clause := by
    rw [queryOf?, entry, ← highlightQuery?_eq]
    rfl
  unfold KeepsHighlighting Spares
  simp only [own, TermClause.body_standsIn_body_iff]
  cases lastPhrase : last.clause.isPhrase with
  | true =>
      have phraseOnly : last.clause.Covers part.clause -> part.clause.isPhrase = true :=
        fun covers => isPhrase_of_covers covers lastPhrase
      simpa using phraseOnly
  | false => simp

/-- What highlights the fields of an advanced search is decided by the last term in each of them.
All clauses of a search keep their highlighting exactly when the last term of every field spares
all the terms of the field. -/
theorem every_term_keeps_highlighting_iff
    (layout : Layout)
    (search : Search)
    (required alternatives : List Term)
    (advanced : search.question = .advanced required alternatives)
    (page batchSize pageSize : Int)
    (query : Query)
    (compiles : compile layout search page batchSize pageSize = .ok query) :
    (∀ field, query.highlight.fields.get? field =
      (lastPart? (groupParts layout required alternatives) field).map
        (highlightField layout "fvh")) ∧
    ((∀ part ∈ groupParts layout required alternatives,
        KeepsHighlighting query.highlight part) ↔
      ∀ part ∈ groupParts layout required alternatives, ∀ last,
        lastPart? (groupParts layout required alternatives) part.field = some last ->
          Spares last part) := by
  obtain ⟨_, _, _, compiled, question, _, rfl⟩ :=
    (compile_eq_ok_iff layout search page batchSize pageSize query).1 compiles
  rw [advanced] at question
  cases question
  have entries := get?_highlightFields layout "fvh" (groupParts layout required alternatives)
  refine ⟨entries, forall₂_congr fun part member => ?_⟩
  obtain ⟨last, found⟩ := exists_lastPart? member
  have entry := entries part.field
  rw [found] at entry
  rw [found, keepsHighlighting_iff layout entry]
  simp

/-- The search for two groups of terms. -/
def groupSearch (required alternatives : List Term) : Search :=
  { question := .advanced required alternatives }

/-- A pattern, a span that repeats it, and a root are all highlighted. -/
theorem repeatedPattern_keeps_highlighting :
    ∃ query,
      compile {}
        (groupSearch [{ text := "ab*" }]
          [{ text := "ab* cd" }, { text := "ktb", matching := .root }]) 1 20 20 = .ok query ∧
      ∀ part ∈ groupParts {} [{ text := "ab*" }]
          [{ text := "ab* cd" }, { text := "ktb", matching := .root }],
        KeepsHighlighting query.highlight part := by
  refine ⟨_, rfl, ?_⟩
  apply (every_term_keeps_highlighting_iff {}
    (groupSearch [{ text := "ab*" }]
      [{ text := "ab* cd" }, { text := "ktb", matching := .root }]) _ _ rfl 1 20 20 _ rfl).2.2
  have parts :
      groupParts {} [{ text := "ab*" }]
          [{ text := "ab* cd" }, { text := "ktb", matching := .root }] =
        [⟨"page_content", .pattern "page_content" "ab*"⟩,
          ⟨"page_content", .near [.pattern "page_content" "ab*", .exact "page_content" "cd"]
            0 true⟩,
          ⟨"token_roots", .pattern "token_roots" (Root.pattern "ktb")⟩] := by
    rfl
  simp [parts, lastPart?, Spares, TermClause.Covers, TermClause.words]

/-- A pattern is not highlighted when a phrase follows in its field, nor is a phrase when a
pattern follows. -/
theorem sharedField_loses_highlighting :
    (∃ query,
      compile {} (groupSearch [{ text := "ab*" }, { text := "cd" }] []) 1 20 20 = .ok query ∧
      ¬∀ part ∈ groupParts {} [{ text := "ab*" }, { text := "cd" }] [],
        KeepsHighlighting query.highlight part) ∧
    ∃ query,
      compile {} (groupSearch [{ text := "cd" }, { text := "ab*" }] []) 1 20 20 = .ok query ∧
      ¬∀ part ∈ groupParts {} [{ text := "cd" }, { text := "ab*" }] [],
        KeepsHighlighting query.highlight part := by
  constructor
  · refine ⟨_, rfl, fun keeps => ?_⟩
    obtain ⟨query, own, _⟩ :=
      keeps ⟨"page_content", .pattern "page_content" "ab*"⟩ List.mem_cons_self
    cases own
  · refine ⟨_, rfl, fun keeps => ?_⟩
    have contained :=
      keeps ⟨"page_content", .phrase "page_content" "cd"⟩ List.mem_cons_self
        (.pattern "page_content" "ab*") rfl
    rw [TermClause.body_standsIn_body_iff] at contained
    simp [TermClause.Covers] at contained

end Query
end Concordance
