import Concordance.Hit
import Concordance.Journal
import Concordance.Value.Coercion

/-!
# Reading hits

A response of the backend is an object. Its hits are listed under `hits.hits`;
each is an object with the page under `_source`, the marked fragments under
`highlight` and the relevance under `_score`. Numbers are read loosely: what is
no integer counts as missing, except an infinity, which is refused.

A response without a list of hits has none. An element of the list that is not an
object, or an object without a text id, is left out and noted.
-/

namespace Concordance

/-- Why a hit or a response could not be read. -/
inductive HitError
  | missingTextId (id : Value)
  | notAnObject (kind : String)
  | noEntries (kind : String)
  | infinite
  | scoreTooLarge

namespace HitError

/-- The wording of a refusal. -/
def message : HitError -> String
  | .missingTextId id => "Search hit without text_id: " ++ id.wording
  | .notAnObject kind => s!"'{kind}' object has no attribute 'get'"
  | .noEntries kind => s!"'{kind}' object has no attribute 'items'"
  | .infinite => CoercionError.infinite.message
  | .scoreTooLarge => "int too large to convert to float"

instance : Worded HitError := ⟨message⟩

/-- Whether a hit that is refused so is left out of its response, and does not
make the whole response unreadable. -/
def isSkipped : HitError -> Bool
  | .missingTextId _ => true
  | _ => false

end HitError

namespace Value

/-- The integer that a value stands for, none where there is no such integer.
Truth values are none. -/
def looseInteger : Value -> Except HitError (Option Int)
  | .bool _ => .ok none
  | value =>
      match value.toInteger with
      | .ok number => .ok (some number)
      | .error .infinite => .error .infinite
      | .error _ => .ok none

/-- An integer that is zero where there is none. -/
def looseCount (value : Value) : Except HitError Int :=
  value.looseInteger.map fun number? => number?.getD 0

@[simp] theorem looseInteger_int (number : Int) :
    looseInteger (.int number) = .ok (some number) := rfl

@[simp] theorem looseInteger_bool (truth : Bool) :
    looseInteger (.bool truth) = .ok none := rfl

end Value

namespace Hit

/-- The entries of an object, none where it is absent. -/
def fields (missing : String -> HitError) (value : Value) : Except HitError (Entries Value) :=
  if value.isEmpty then .ok []
  else
    match value.entries? with
    | some entries => .ok entries
    | none => .error (missing value.kindName)

/-- The marked fragments of each field; a field without a list of them is left
out. -/
def readHighlights : Entries Value -> Entries (List String)
  | [] => []
  | (name, .list fragments) :: rest =>
      (name, fragments.map Value.wording) :: readHighlights rest
  | _ :: rest => readHighlights rest

/-- The relevance of a hit, none where it is no number. -/
def readScore : Value -> Except HitError (Option Binary64)
  | .int number =>
      match Binary64.ofInt? number with
      | some score => .ok (some score)
      | none => .error .scoreTooLarge
  | .float score => .ok (some score)
  | _ => .ok none

/-- The wording of an address, empty where there is none. -/
def readUri (value : Value) : String :=
  if value.isEmpty then "" else value.wording

/-- Read a hit. -/
def read (hit : Entries Value) : Except HitError Hit := do
  let source <- fields .notAnObject (Value.field hit "_source")
  match <- (Value.field source "text_id").looseInteger with
  | none => throw (.missingTextId (Value.field hit "_id"))
  | some textId =>
      let highlight <- fields .noEntries (Value.field hit "highlight")
      let volume := Value.field source "vol"
      let volumeNumber? <- volume.looseInteger
      let pageNumber <- (Value.field source "page_num").looseInteger
      let pageId <- (Value.field source "page_id").looseInteger
      let score <- readScore (Value.field hit "_score")
      pure
        { textId
          volume := (volumeNumber?.map Value.int).getD volume
          pageNumber
          pageId
          uri := readUri (Value.field source "uri")
          highlights := readHighlights highlight
          score }

end Hit

namespace Batch

/-- Read the elements of a list of hits, with notes on those left out. Reading
ends at the first element that makes the response unreadable. -/
def readHits : List Value -> Except HitError (List Hit) × List Record
  | [] => (.ok [], [])
  | .obj entries :: rest =>
      match Hit.read entries with
      | .ok hit =>
          let (hits, notes) := readHits rest
          (hits.map (hit :: ·), notes)
      | .error cause =>
          if cause.isSkipped then
            let note := Record.warning ("Skipping malformed hit _id=" ++
              (Value.field entries "_id").wording ++ ": " ++ cause.message)
            let (hits, notes) := readHits rest
            (hits, note :: notes)
          else (.error cause, [])
  | element :: rest =>
      let (hits, notes) := readHits rest
      (hits, Record.warning s!"Skipping non-object hit: {element.inner}" :: notes)

/-- The number of all hits: a bare number, or the `value` of an object. -/
def readTotal : Value -> Except HitError Int
  | .obj entries => (Value.field entries "value").looseCount
  | total => total.looseCount

/-- The list of hits of a response with the entries around it, none where it has
no such list. -/
def hitList? (payload : Entries Value) : Option (Entries Value × List Value) :=
  match Value.field payload "hits" with
  | .obj hits =>
      match Value.field hits "hits" with
      | .list elements => some (hits, elements)
      | _ => none
  | _ => none

/-- Read a response, with notes on what is odd about it. -/
def read (payload : Entries Value) : Except HitError Batch × List Record :=
  match (Value.field payload "took").looseCount with
  | .error cause => (.error cause, [])
  | .ok took =>
      match hitList? payload with
      | none =>
          (.ok { hits := [], total := 0, took },
            [Record.warning "Invalid OpenSearch response format: missing hits"])
      | some (hits, elements) =>
          let (readHits, notes) := readHits elements
          (do
            let readHits <- readHits
            let total <- readTotal (Value.field hits "total")
            pure { hits := readHits, total, took },
          notes)

end Batch
end Concordance
