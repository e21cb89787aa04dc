/-!
# The layout of the page index

The names of the index fields and the options of highlighting. Tokens are indexed
in four variants, one for each choice of the two modifiers; roots have a field of
their own.
-/

namespace Concordance

/-- Options of highlighting that all fields share. -/
structure HighlightStyle where
  fragmentSize : Int := 150
  phraseLimit : Int := 150
  fragmentCount : Int := 100
  preTag : String := "<span class=\"highlight\">"
  postTag : String := "</span>"
  locale : String := "ar"
  deriving DecidableEq, Repr

/-- The fields of the page index and the style of highlighting. -/
structure Layout where
  baseField : String := "page_content"
  definiteField : String := "page_content.definite"
  procliticField : String := "page_content.proclitic"
  combinedField : String := "page_content.combined"
  rootField : String := "token_roots"
  idField : String := "text_id"
  sortField : String := "uri"
  sourceFields : List String := ["text_id", "vol", "page_num", "page_id", "uri"]
  style : HighlightStyle := {}
  deriving DecidableEq, Repr

/-- The token field for the two modifiers. -/
def Layout.tokenField (layout : Layout) (definite proclitic : Bool) : String :=
  match definite, proclitic with
  | true, true => layout.combinedField
  | true, false => layout.definiteField
  | false, true => layout.procliticField
  | false, false => layout.baseField

end Concordance
