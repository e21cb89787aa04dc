import Concordance.Value

/-!
# Query clauses

The clause of a term is a phrase, a pattern with open letters, or a span of
words near each other, each word exact or a pattern. A query combines term
clauses, a choice among several of them, and the restriction to selected texts.
-/

namespace Concordance

/-- A word of a span. -/
inductive SpanWord
  | exact (field word : String)
  | pattern (field value : String)
  deriving DecidableEq, Repr

/-- The clause of a term. -/
inductive TermClause
  | phrase (field text : String)
  | pattern (field value : String)
  | near (words : List SpanWord) (slop : Int) (inOrder : Bool)
  deriving DecidableEq, Repr

/-- A clause of a query. -/
inductive Clause
  | term (clause : TermClause)
  | anyOf (clauses : List TermClause)
  | texts (field : String) (ids : List Int)
  deriving DecidableEq, Repr

/-- Data that have a place in a request body. -/
class InBody (α : Type) where
  toValue : α -> Value

instance : InBody Value := ⟨id⟩

/-- The body of a pattern in a field; letter case does not matter. -/
def patternBody (field value : String) : Value :=
  .obj [("wildcard", .obj [(field,
    .obj [("value", .str value), ("case_insensitive", .bool true)])])]

/-- The body of a word of a span. -/
def SpanWord.body : SpanWord -> Value
  | .exact field word => .obj [("span_term", .obj [(field, .str word)])]
  | .pattern field value => .obj [("span_multi", .obj [("match", patternBody field value)])]

/-- The body of the clause of a term. -/
def TermClause.body : TermClause -> Value
  | .phrase field text =>
      .obj [("match_phrase", .obj [(field, .obj [("query", .str text)])])]
  | .pattern field value => patternBody field value
  | .near words slop inOrder =>
      .obj [("span_near", .obj [("clauses", .list (words.map SpanWord.body)),
        ("slop", .int slop), ("in_order", .bool inOrder)])]

/-- The body of a clause of a query. -/
def Clause.body : Clause -> Value
  | .term clause => clause.body
  | .anyOf clauses =>
      .obj [("bool", .obj [("should", .list (clauses.map TermClause.body)),
        ("minimum_should_match", .int 1)])]
  | .texts field ids => .obj [("terms", .obj [(field, .list (ids.map Value.int))])]

instance : InBody TermClause := ⟨TermClause.body⟩

instance : InBody Clause := ⟨Clause.body⟩

end Concordance
