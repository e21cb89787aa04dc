import Concordance.Query.Compile

/-!
# The leaves of a clause

A clause in a request body is an object with the name of its kind. Phrases, patterns and exact words
are leaves: they name a field and say what is looked for there. The leaves of a clause stand
anywhere in it, in lists and under the names of other kinds.
-/

namespace Concordance

/-- The value under a key, where a value is an object. -/
def Value.under (key : String) : Value -> Value
  | .obj entries => Value.field entries key
  | _ => .null

/-- The text of a value that is one. -/
def Value.text? : Value -> Option String
  | .str text => some text
  | _ => none

namespace Query

/-- The kinds of leaves. -/
inductive LeafKind
  | phrase
  | wildcard
  | exact
  deriving DecidableEq, Repr

/-- The kind of leaves of a name. -/
def LeafKind.ofName? (name : String) : Option LeafKind :=
  if name = "match_phrase" then some .phrase
  else if name = "wildcard" then some .wildcard
  else if name = "span_term" then some .exact
  else none

/-- A leaf: a field with what is looked for there. -/
structure Leaf where
  kind : LeafKind
  field : String
  content : Value

/-- The text that a leaf looks for. -/
def Leaf.text? (leaf : Leaf) : Option String :=
  match leaf.kind with
  | .phrase => (leaf.content.under "query").text?
  | .wildcard => (leaf.content.under "value").text?
  | .exact => leaf.content.text?

/-- The leaves of a kind, field by field. -/
def LeafKind.leaves (kind : LeafKind) : Value -> List Leaf
  | .obj fields => fields.map fun (field, content) => { kind, field, content }
  | _ => []

mutual

/-- The leaves of a clause. -/
def leaves : Value -> List Leaf
  | .obj entries => entryLeaves entries
  | .list items => itemLeaves items
  | _ => []

/-- The leaves under the names of an object. -/
def entryLeaves : List (String × Value) -> List Leaf
  | [] => []
  | (name, value) :: rest =>
      match LeafKind.ofName? name with
      | some kind => kind.leaves value ++ entryLeaves rest
      | none => leaves value ++ entryLeaves rest

/-- The leaves of the items of a list. -/
def itemLeaves : List Value -> List Leaf
  | [] => []
  | item :: items => leaves item ++ itemLeaves items

end

@[simp] theorem leaves_obj (entries : List (String × Value)) :
    leaves (.obj entries) = entryLeaves entries := by
  rw [leaves]

@[simp] theorem leaves_list (items : List Value) :
    leaves (.list items) = items.flatMap leaves := by
  rw [leaves]
  induction items with
  | nil => rfl
  | cons item items inductionHypothesis =>
      rw [itemLeaves, inductionHypothesis, List.flatMap_cons]

@[simp] theorem leaves_int (number : Int) : leaves (.int number) = [] := by
  rw [leaves] <;> nofun

@[simp] theorem leaves_bool (truth : Bool) : leaves (.bool truth) = [] := by
  rw [leaves] <;> nofun

/-- The leaf of a phrase. -/
def phraseLeaf (field text : String) : Leaf :=
  { kind := .phrase, field, content := .obj [("query", .str text)] }

/-- The leaf of a pattern. -/
def patternLeaf (field value : String) : Leaf :=
  { kind := .wildcard
    field
    content := .obj [("value", .str value), ("case_insensitive", .bool true)] }

/-- The leaf of an exact word. -/
def exactLeaf (field word : String) : Leaf :=
  { kind := .exact, field, content := .str word }

@[simp] theorem text?_phraseLeaf (field text : String) :
    (phraseLeaf field text).text? = some text := rfl

@[simp] theorem text?_patternLeaf (field value : String) :
    (patternLeaf field value).text? = some value := rfl

@[simp] theorem text?_exactLeaf (field word : String) :
    (exactLeaf field word).text? = some word := rfl

/-- The leaf of a word of a span. -/
def wordLeaf : SpanWord -> Leaf
  | .exact field word => exactLeaf field word
  | .pattern field value => patternLeaf field value

theorem field_spanWord (field word : String) : (wordLeaf (spanWord field word)).field = field := by
  unfold spanWord
  split <;> rfl

@[simp] theorem leaves_phrase (field text : String) :
    leaves (TermClause.phrase field text).body = [phraseLeaf field text] := by
  simp [TermClause.body, entryLeaves, LeafKind.ofName?, LeafKind.leaves, phraseLeaf]

@[simp] theorem leaves_patternBody (field value : String) :
    leaves (patternBody field value) = [patternLeaf field value] := by
  simp [patternBody, entryLeaves, LeafKind.ofName?, LeafKind.leaves, patternLeaf]

@[simp] theorem leaves_spanWord (word : SpanWord) : leaves word.body = [wordLeaf word] := by
  cases word with
  | exact field word =>
      simp [SpanWord.body, entryLeaves, LeafKind.ofName?, LeafKind.leaves, wordLeaf, exactLeaf]
  | pattern field value =>
      simp [SpanWord.body, entryLeaves, LeafKind.ofName?, wordLeaf]

@[simp] theorem leaves_near (words : List SpanWord) (slop : Int) (inOrder : Bool) :
    leaves (TermClause.near words slop inOrder).body = words.map wordLeaf := by
  have leaves_words : (words.map SpanWord.body).flatMap leaves = words.map wordLeaf := by
    induction words with
    | nil => rfl
    | cons word words inductionHypothesis =>
        rw [List.map_cons, List.flatMap_cons, inductionHypothesis, leaves_spanWord]
        rfl
  simp [TermClause.body, entryLeaves, LeafKind.ofName?, leaves_words]

@[simp] theorem leaves_term (clause : TermClause) :
    leaves (Clause.term clause).body = leaves clause.body := rfl

@[simp] theorem leaves_anyOf (clauses : List TermClause) :
    leaves (Clause.anyOf clauses).body = (clauses.map TermClause.body).flatMap leaves := by
  simp [Clause.body, entryLeaves, LeafKind.ofName?]

end Query
end Concordance
