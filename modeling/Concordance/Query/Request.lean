import Concordance.Entries
import Concordance.Query.Clause

/-!
# Search requests

A request asks for a window of the hits of a query: `size` hits from `offset` on.
Everything else about it is fixed when it is built; only the window can be
exchanged, and only for one that begins at zero or later and is not empty.
-/

namespace Concordance

/-- How the hits of one index field are highlighted. -/
structure HighlightField (γ : Type) where
  highlighter : String
  phraseLimit : Int
  fragmentSize : Int
  fragmentCount : Int
  matchedFields : List String
  requireMatch : Bool := true
  locale : String := "ar"
  query : Option γ := none
  deriving DecidableEq

/-- How hits are highlighted. -/
structure Highlight (γ : Type) where
  preTags : List String := []
  postTags : List String := []
  fields : Entries (HighlightField γ) := []
  deriving DecidableEq

/-- A request for a window of the hits of a query, with clauses `γ` and
highlighting by clauses `δ`. -/
structure SearchRequest (γ δ : Type) where
  offset : Int
  size : Int
  must : List γ := []
  should : List γ := []
  filter : List γ := []
  sort : List Value := []
  sourceFields : List String := []
  highlight : Highlight δ := {}
  tracksTotal : Bool := true

/-- Why a window was refused. -/
inductive WindowError
  | negativeOffset
  | emptyWindow
  deriving DecidableEq, Repr

/-- The wording of a refusal. -/
def WindowError.message : WindowError -> String
  | .negativeOffset => "from_ must be >= 0"
  | .emptyWindow => "size must be positive"

/-- The body of the highlighting of one field. -/
def HighlightField.body {γ : Type} [InBody γ] (field : HighlightField γ) : Value :=
  .obj ([("type", .str field.highlighter), ("phrase_limit", .int field.phraseLimit),
    ("fragment_size", .int field.fragmentSize),
    ("number_of_fragments", .int field.fragmentCount),
    ("matched_fields", .list (field.matchedFields.map Value.str)),
    ("require_field_match", .bool field.requireMatch),
    ("boundary_scanner_locale", .str field.locale)] ++
    match field.query with
    | none => []
    | some query => [("highlight_query", InBody.toValue query)])

/-- The body of the highlighting. -/
def Highlight.body {γ : Type} [InBody γ] (highlight : Highlight γ) : Value :=
  .obj [("pre_tags", .list (highlight.preTags.map Value.str)),
    ("post_tags", .list (highlight.postTags.map Value.str)),
    ("fields", .obj (highlight.fields.map fun (name, field) => (name, field.body)))]

namespace SearchRequest

variable {γ δ : Type}

/-- The same request for another window. -/
def withWindow (request : SearchRequest γ δ) (offset size : Int) :
    Except WindowError (SearchRequest γ δ) :=
  if offset < 0 then .error .negativeOffset
  else if size ≤ 0 then .error .emptyWindow
  else .ok { request with offset, size }

/-- The entries of a request body. -/
def bodyEntries [InBody γ] [InBody δ] (request : SearchRequest γ δ) : Entries Value :=
  [("from", .int request.offset), ("size", .int request.size),
    ("track_total_hits", .bool request.tracksTotal),
    ("_source", .list (request.sourceFields.map Value.str)),
    ("query", .obj [("bool", .obj [
      ("must", .list (request.must.map InBody.toValue)),
      ("should", .list (request.should.map InBody.toValue)),
      ("filter", .list (request.filter.map InBody.toValue))])]),
    ("sort", .list request.sort),
    ("highlight", request.highlight.body)]

/-- The request body. -/
def body [InBody γ] [InBody δ] (request : SearchRequest γ δ) : Value :=
  .obj request.bodyEntries

end SearchRequest
end Concordance
