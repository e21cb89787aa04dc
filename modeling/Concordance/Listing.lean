import Concordance.Hit
import Concordance.Text.Blank
import Concordance.Text.Pieces
import Concordance.Value.Wording

/-!
# Listings of hits

The hits of a page are listed as lines of text, or as an object. In the lines,
marked words stand in brackets, and a bounded number of fragments is shown for
each hit.
-/

namespace Concordance

/-- How hits are listed as text. -/
structure ListingStyle where
  firstRank : Int := 1
  preTag : String := "<span class=\"highlight\">"
  postTag : String := "</span>"
  mostFragments : Int := 3
  deriving DecidableEq, Repr

namespace Listing

/-- The number of pages and hits around a page. -/
structure PageCount where
  page : Int
  totalPages : Int
  totalHits : Int
  deriving DecidableEq, Repr

/-- What is listed where there are no hits. -/
def noHits : String := "No results.\n"

/-- A fragment on one line, with marked words in brackets. -/
def marked (style : ListingStyle) (fragment : String) : String :=
  Text.replaceIn "\n" " "
    (Text.replaceIn style.postTag "]" (Text.replaceIn style.preTag "[" fragment))

/-- The fragments of all fields in order, each with its field. -/
def fragments (hit : Hit) : List (String × String) :=
  hit.highlights.flatMap fun (field, fragments) => fragments.map fun fragment => (field, fragment)

/-- A number, or a dash where there is none. -/
def numberOrDash (number? : Option Int) : String :=
  match number? with
  | some number => Numeral.spell number
  | none => "-"

/-- A volume, or a dash where there is none. -/
def volumeOrDash : Value -> String
  | .null => "-"
  | volume => volume.wording

/-- The line that names a hit. -/
def titleLine (rank : Int) (hit : Hit) : String :=
  s!"{rank}. text {hit.textId}  vol {volumeOrDash hit.volume}  p. {numberOrDash hit.pageNumber}"

/-- The lines of a hit; the last one is empty. -/
def hitLines (style : ListingStyle) (rank : Int) (hit : Hit) : List String :=
  titleLine rank hit ::
    (if hit.uri.isEmpty then [] else [s!"   URI: {hit.uri}"]) ++
    (((fragments hit).take style.mostFragments.toNat).map fun (field, fragment) =>
      s!"   {field}: {marked style fragment}") ++
    [""]

/-- The lines of hits that are ranked from a number on. -/
def lines (style : ListingStyle) (rank : Int) : List Hit -> List String
  | [] => []
  | hit :: hits => hitLines style rank hit ++ lines style (rank + 1) hits

/-- Hits as text. Blanks at the end are dropped, and a line feed ends the text. -/
def text (style : ListingStyle) (hits : List Hit) : String :=
  if hits.isEmpty then noHits
  else
    let body := "\n".intercalate (lines style style.firstRank hits)
    String.ofList (Text.trimRight body.toList) ++ "\n"

/-- An integer as a value, no value where there is none. -/
def numberOrNull (number? : Option Int) : Value :=
  (number?.map Value.int).getD .null

/-- A hit as an object. -/
def hitObject (hit : Hit) : Value :=
  .obj [("text_id", .int hit.textId),
    ("vol", hit.volume),
    ("page_num", numberOrNull hit.pageNumber),
    ("page_id", numberOrNull hit.pageId),
    ("uri", .str hit.uri),
    ("score", (hit.score.map Value.float).getD .null),
    ("highlights",
      .obj (hit.highlights.map fun (field, fragments) =>
        (field, .list (fragments.map Value.str))))]

/-- The hits of a page as an object, with the numbers around it. -/
def object (count : PageCount) (hits : List Hit) : Value :=
  .obj [("page", .int count.page),
    ("total_pages", .int count.totalPages),
    ("total_results", .int count.totalHits),
    ("results", .list (hits.map hitObject))]

end Listing
end Concordance
