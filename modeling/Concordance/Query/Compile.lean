import Concordance.Numeral.Integer
import Concordance.Phrase
import Concordance.Query.Layout
import Concordance.Query.Request
import Concordance.Root
import Concordance.Search

/-!
# Searches as queries

A token term of one word becomes a phrase, or a pattern when it holds a marker.
A token term of several words is a phrase as well, unless one of its words holds
a marker; then it is an ordered span without gaps, word by word. Root terms are
matched by their root pattern.

* A simple search asks for its clause.
* An advanced search asks for the clause of every required term, and for one of
  the clauses of the alternatives; blank terms are left out.
* A proximity search asks for an unordered span of its two terms. Both are matched
  as roots when one of them is a root, and otherwise in the token field of the
  first term.

The fields that are searched are highlighted. A clause with open letters or a
span brings its own highlighting query, and of two clauses in one field the later
one is highlighted.
-/

namespace Concordance

/-- Why a search could not be compiled. -/
inductive CompileError
  | page (given : Int)
  | sizes
  | emptyTerm
  | emptyNeighbour
  | slop (given : Int)
  | noClause (mode : String)
  | unsupported (mode : String)
  deriving DecidableEq, Repr

/-- The wording of a refusal. -/
def CompileError.message : CompileError -> String
  | .page given => s!"page must be >= 1, got {given}"
  | .sizes => "batch_size and page_size must be positive"
  | .emptyTerm => "simple search requires a non-empty term"
  | .emptyNeighbour => "proximity search requires two non-empty terms"
  | .slop given => s!"slop must be >= 0, got {given}"
  | .noClause mode => s!"{mode} search produced no query clauses"
  | .unsupported mode => s!"Unsupported search mode: {mode}"

/-- A compiled search. -/
abbrev Query := SearchRequest Clause TermClause

namespace Query

/-- A word of a span: a pattern when it holds a marker. -/
def spanWord (field word : String) : SpanWord :=
  if Phrase.hasMarker word then .pattern field word else .exact field word

/-- The clause of a normalised token term. -/
def tokenClause (text field : String) : TermClause :=
  let words := Phrase.splitWords text
  if words.length = 1 then
    if Phrase.hasMarker text then .pattern field text else .phrase field text
  else if words.any Phrase.hasMarker then .near (words.map (spanWord field)) 0 true
  else .phrase field text

/-- A clause with the field it searches. -/
structure Part where
  field : String
  clause : TermClause
  deriving DecidableEq, Repr

/-- A normalised text matched as tokens. -/
def tokenPart (layout : Layout) (text : String) (definite proclitic : Bool) : Part :=
  let field := layout.tokenField definite proclitic
  { field, clause := tokenClause text field }

/-- The part of a simple search; a root is asked for as a phrase. -/
def simplePart (layout : Layout) (term : Term) : Except CompileError Part :=
  let text := Phrase.normalize term.text
  if text.isEmpty then .error .emptyTerm
  else
    match term.matching with
    | .root =>
        .ok { field := layout.rootField, clause := .phrase layout.rootField (Root.pattern text) }
    | .token definite proclitic => .ok (tokenPart layout text definite proclitic)

/-- The part of a term of an advanced search; a root is asked for as a pattern,
and a blank term has none. -/
def groupPart? (layout : Layout) (term : Term) : Option Part :=
  let text := Phrase.normalize term.text
  if text.isEmpty then none
  else
    match term.matching with
    | .root =>
        some { field := layout.rootField, clause := .pattern layout.rootField (Root.pattern text) }
    | .token definite proclitic => some (tokenPart layout text definite proclitic)

/-- The part of a proximity search. -/
def proximityPart (layout : Layout) (first second : Term) (slop : Int) :
    Except CompileError Part :=
  let firstText := Phrase.normalize first.text
  let secondText := Phrase.normalize second.text
  if firstText.isEmpty ∨ secondText.isEmpty then .error .emptyNeighbour
  else if slop < 0 then .error (.slop slop)
  else if first.matching.isRoot ∨ second.matching.isRoot then
    let field := layout.rootField
    let words := [firstText, secondText].map fun text => .pattern field (Root.pattern text)
    .ok { field, clause := .near words slop false }
  else
    let field := layout.tokenField first.matching.definite first.matching.proclitic
    .ok { field, clause := .near ([firstText, secondText].map (spanWord field)) slop false }

/-- The query that highlights a clause; a phrase needs none of its own. -/
def highlightQuery? : TermClause -> Option TermClause
  | .phrase .. => none
  | clause => some clause

/-- The highlighting of a part. The fragments of the root field are twice as long,
since its patterns carry a separator for every letter. -/
def highlightField (layout : Layout) (highlighter : String) (part : Part) :
    HighlightField TermClause :=
  { highlighter
    phraseLimit := layout.style.phraseLimit
    fragmentSize :=
      if part.field = layout.rootField then layout.style.fragmentSize * 2
      else layout.style.fragmentSize
    fragmentCount := layout.style.fragmentCount
    matchedFields := [part.field]
    locale := layout.style.locale
    query := highlightQuery? part.clause }

/-- The highlighting of parts, field by field; a later part replaces an earlier
one in the same field. -/
def highlightFields (layout : Layout) (highlighter : String) (parts : List Part) :
    Entries (HighlightField TermClause) :=
  parts.foldl
    (fun fields part => fields.put part.field (highlightField layout highlighter part)) []

/-- The clauses of a query and the highlighting of their fields. -/
structure Compiled where
  must : List Clause
  fields : Entries (HighlightField TermClause)

/-- The query of a single part. -/
def compileSingle (layout : Layout) (part : Part) : Compiled :=
  { must := [.term part.clause]
    fields := highlightFields layout "plain" [part] }

/-- The query of the two groups of an advanced search. -/
def compileGroups (layout : Layout) (required alternatives : List Term) : Compiled :=
  let requiredParts := required.filterMap (groupPart? layout)
  let alternativeParts := alternatives.filterMap (groupPart? layout)
  let choice := if alternativeParts.isEmpty then [] else [.anyOf (alternativeParts.map Part.clause)]
  { must := requiredParts.map (fun part => .term part.clause) ++ choice
    fields := highlightFields layout "fvh" (requiredParts ++ alternativeParts) }

/-- The query of what a search asks for. -/
def compileQuestion (layout : Layout) : Question -> Except CompileError Compiled
  | .simple term => (simplePart layout term).map (compileSingle layout)
  | .advanced required alternatives => .ok (compileGroups layout required alternatives)
  | .proximity first second slop =>
      (proximityPart layout first second slop).map (compileSingle layout)
  | .unsupported mode => .error (.unsupported mode)

/-- The restriction to selected texts; no selection restricts nothing. -/
def textFilter (layout : Layout) (texts : List Int) : List Clause :=
  if texts.isEmpty then [] else [.texts layout.idField texts]

/-- The request for `batchSize` hits of a search, from the first hit of a page on,
pages having `pageSize` hits. -/
def compile
    (layout : Layout)
    (search : Search)
    (page batchSize pageSize : Int) :
    Except CompileError Query := do
  if page < 1 then throw (.page page)
  if batchSize ≤ 0 ∨ pageSize ≤ 0 then throw .sizes
  let compiled <- compileQuestion layout search.question
  if compiled.must.isEmpty then throw (.noClause search.mode)
  pure
    { offset := (page - 1) * pageSize
      size := batchSize
      must := compiled.must
      filter := textFilter layout search.texts
      sort := [.obj [(layout.sortField, .obj [("order", .str "asc")])]]
      sourceFields := layout.sourceFields
      highlight :=
        { preTags := [layout.style.preTag]
          postTags := [layout.style.postTag]
          fields := compiled.fields } }

end Query
end Concordance
