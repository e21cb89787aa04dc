import Concordance.Value

/-!
# Hits

A hit is a page of a text that answers a search. A batch is the part of the hits
that one request brings, with the number of all hits.
-/

namespace Concordance

/-- A page that answers a search. The volume is kept as it came when it is no
integer. -/
structure Hit where
  textId : Int
  volume : Value
  pageNumber : Option Int
  pageId : Option Int
  uri : String
  highlights : Entries (List String) := []
  score : Option Binary64 := none

/-- The hits that one request brings, the number of all hits, and the time it
took. -/
structure Batch where
  hits : List Hit
  total : Int
  took : Int := 0

end Concordance
