import Concordance.Proofs.Hit.Reading
import Concordance.Proofs.Outcome
import Mathlib.Data.List.Basic

/-!
# Which responses are refused

Numbers are read loosely and sections may be absent, yet some values make a whole response
unreadable: an infinity where an integer is read, a section that is neither absent nor an
object, and a relevance beyond all binary fractions. The conditions here are computed from the
values alone, without reading them.

The main statement says that these are all. A response without such a value is read as a batch
that has every hit of its list, and any other response is refused as a whole.
-/

namespace Concordance
namespace Value

/-- Whether a value is an infinity. -/
def isInfinite : Value -> Bool
  | .float (.infinite _) => true
  | _ => false

/-- Whether a value can stand for a section: an object, or a value that counts as absent. -/
def isSection (value : Value) : Bool :=
  value.isEmpty || value.entries?.isSome

/-- The entries of a section; only an object has any. -/
def sectionEntries (value : Value) : Entries Value :=
  value.entries?.getD []

/-- Whether a value is no number, or one that a binary fraction comes near to. -/
def fitsFraction : Value -> Bool
  | .int number => (Binary64.ofInt? number).isSome
  | _ => true

/-- The integer that a value stands for, none for a truth value. -/
def integer? : Value -> Option Int
  | .bool _ => none
  | value => value.toInteger.toOption

/-- The text id of an element of a list of hits: the integer under `text_id` in the object under
`_source`. -/
def sourceTextId? : Value -> Option Int
  | .obj hit => (field (field hit "_source").sectionEntries "text_id").integer?
  | _ => none

/-- A value that counts as absent has no entries. -/
theorem sectionEntries_of_isEmpty
    {value : Value}
    (absent : value.isEmpty = true) :
    value.sectionEntries = [] := by
  cases value with
  | obj entries => exact List.isEmpty_iff.1 absent
  | _ => rfl

/-- Reading an integer is refused for an infinity only. -/
theorem looseInteger_of_not_isInfinite
    {value : Value}
    (bounded : value.isInfinite = false) :
    value.looseInteger = .ok value.integer? := by
  cases value with
  | bool truth => rfl
  | float number =>
      cases number with
      | infinite negative => cases bounded
      | nan => rfl
      | finite negative mantissa exponent => rfl
  | str text =>
      simp only [looseInteger, integer?, toInteger]
      cases Numeral.readInteger text <;> rfl
  | _ => rfl

/-- An infinity is refused as an integer. -/
theorem looseInteger_of_isInfinite
    {value : Value}
    (infinite : value.isInfinite = true) :
    value.looseInteger = .error .infinite := by
  unfold isInfinite at infinite
  split at infinite
  · rfl
  · cases infinite

/-- An infinity stands for no integer. -/
theorem isInfinite_of_integer?
    {value : Value}
    {number : Int}
    (found : value.integer? = some number) :
    value.isInfinite = false := by
  apply Bool.eq_false_iff.2
  intro infinite
  unfold isInfinite at infinite
  split at infinite
  · cases found
  · cases infinite

end Value

namespace Hit

open Value

/-- The entries of the page that a hit is about. -/
def source (hit : Entries Value) : Entries Value :=
  (field hit "_source").sectionEntries

/-- Whether the values beside the text id of a hit can all be read. -/
structure IsSound (hit : Entries Value) : Prop where
  highlight : (field hit "highlight").isSection = true
  volume : (field (source hit) "vol").isInfinite = false
  pageNumber : (field (source hit) "page_num").isInfinite = false
  pageId : (field (source hit) "page_id").isInfinite = false
  score : (field hit "_score").fitsFraction = true

/-- The entries of a section. -/
theorem fields_of_isSection
    {value : Value}
    (present : value.isSection = true)
    (missing : String -> HitError) :
    fields missing value = .ok value.sectionEntries := by
  unfold fields
  by_cases absent : value.isEmpty = true
  · rw [if_pos absent, sectionEntries_of_isEmpty absent]
  · rw [if_neg absent]
    unfold sectionEntries
    cases found : value.entries? with
    | some entries => rfl
    | none =>
        rw [isSection, found, Bool.eq_false_iff.2 absent] at present
        cases present

/-- What is no section has no entries. -/
theorem fields_of_not_isSection
    {value : Value}
    (other : value.isSection = false)
    (missing : String -> HitError) :
    fields missing value = .error (missing value.kindName) := by
  obtain ⟨present, noEntries⟩ := Bool.or_eq_false_iff.1 other
  unfold fields
  rw [if_neg (Bool.eq_false_iff.1 present),
    Option.isNone_iff_eq_none.1 (Option.isSome_eq_false_iff.1 noEntries)]

/-- The relevance of a hit is refused only when it is too large. -/
theorem readScore_of_fitsFraction
    {value : Value}
    (fits : value.fitsFraction = true) :
    ∃ score, readScore value = .ok score := by
  cases value with
  | int number =>
      obtain ⟨score, nearest⟩ := Option.isSome_iff_exists.1 fits
      exact ⟨some score, by simp [readScore, nearest]⟩
  | float number => exact ⟨_, rfl⟩
  | _ => exact ⟨none, rfl⟩

/-- A relevance that is too large is refused. -/
theorem readScore_of_not_fitsFraction
    {value : Value}
    (large : value.fitsFraction = false) :
    readScore value = .error .scoreTooLarge := by
  cases value with
  | int number =>
      have beyond : Binary64.ofInt? number = none :=
        Option.isNone_iff_eq_none.1 (Option.isSome_eq_false_iff.1 large)
      simp [readScore, beyond]
  | _ => cases large

/-- Only a section has a text id, and the text id is no infinity. -/
theorem of_sourceTextId?
    {hit : Entries Value}
    {textId : Int}
    (found : sourceTextId? (.obj hit) = some textId) :
    (field hit "_source").isSection = true ∧
      (field (source hit) "text_id").looseInteger = .ok (some textId) := by
  have bounded := isInfinite_of_integer? found
  refine ⟨?_, (looseInteger_of_not_isInfinite bounded).trans (congrArg _ found)⟩
  apply Bool.not_eq_false _ |>.mp
  intro other
  obtain ⟨_, noEntries⟩ := Bool.or_eq_false_iff.1 other
  have empty : (field hit "_source").sectionEntries = [] := by
    unfold sectionEntries
    rw [Option.isNone_iff_eq_none.1 (Option.isSome_eq_false_iff.1 noEntries)]
    rfl
  rw [sourceTextId?, empty] at found
  cases found

/-- A hit without a text id is left out. -/
theorem read_of_no_textId
    {hit : Entries Value}
    (present : (field hit "_source").isSection = true)
    (bounded : (field (source hit) "text_id").isInfinite = false)
    (missing : sourceTextId? (.obj hit) = none) :
    read hit = .error (.missingTextId (field hit "_id")) := by
  have noInteger : (field (source hit) "text_id").looseInteger = .ok none :=
    (looseInteger_of_not_isInfinite bounded).trans (congrArg _ missing)
  unfold source at noInteger
  simp only [read, fields_of_isSection present, bind, Except.bind, noInteger]
  rfl

/-- A hit with a text id is read when the values beside it can be read, and otherwise makes its
response unreadable. -/
theorem read_of_sourceTextId?
    {hit : Entries Value}
    {textId : Int}
    (found : sourceTextId? (.obj hit) = some textId) :
    (IsSound hit ∧ ∃ parsed, read hit = .ok parsed ∧ parsed.textId = textId) ∨
      (¬IsSound hit ∧ ∃ cause, read hit = .error cause ∧ cause.isSkipped = false) := by
  obtain ⟨present, hasId⟩ := of_sourceTextId? found
  have begins :
      read hit = (do
        let highlight <- fields .noEntries (field hit "highlight")
        let volumeNumber? <- (field (source hit) "vol").looseInteger
        let pageNumber <- (field (source hit) "page_num").looseInteger
        let pageId <- (field (source hit) "page_id").looseInteger
        let score <- readScore (field hit "_score")
        pure
          { textId
            volume := (volumeNumber?.map Value.int).getD (field (source hit) "vol")
            pageNumber
            pageId
            uri := readUri (field (source hit) "uri")
            highlights := readHighlights highlight
            score }) := by
    unfold source at hasId ⊢
    simp only [read, fields_of_isSection present, bind, Except.bind, hasId]
  rw [begins]
  cases highlight : (field hit "highlight").isSection with
  | false =>
      rw [fields_of_not_isSection highlight]
      exact .inr ⟨fun sound => absurd sound.highlight (by simp [highlight]), _, rfl, rfl⟩
  | true =>
  rw [fields_of_isSection highlight]
  cases volume : (field (source hit) "vol").isInfinite with
  | true =>
      rw [looseInteger_of_isInfinite volume]
      exact .inr ⟨fun sound => absurd sound.volume (by simp [volume]), .infinite, rfl, rfl⟩
  | false =>
  rw [looseInteger_of_not_isInfinite volume]
  cases pageNumber : (field (source hit) "page_num").isInfinite with
  | true =>
      rw [looseInteger_of_isInfinite pageNumber]
      exact .inr ⟨fun sound => absurd sound.pageNumber (by simp [pageNumber]), .infinite, rfl, rfl⟩
  | false =>
  rw [looseInteger_of_not_isInfinite pageNumber]
  cases pageId : (field (source hit) "page_id").isInfinite with
  | true =>
      rw [looseInteger_of_isInfinite pageId]
      exact .inr ⟨fun sound => absurd sound.pageId (by simp [pageId]), .infinite, rfl, rfl⟩
  | false =>
  rw [looseInteger_of_not_isInfinite pageId]
  cases score : (field hit "_score").fitsFraction with
  | false =>
      rw [readScore_of_not_fitsFraction score]
      exact .inr ⟨fun sound => absurd sound.score (by simp [score]), .scoreTooLarge, rfl, rfl⟩
  | true =>
  obtain ⟨nearest, reads⟩ := readScore_of_fitsFraction score
  rw [reads]
  exact .inl ⟨⟨highlight, volume, pageNumber, pageId, score⟩, _, rfl, rfl⟩

end Hit

namespace Value

/-- An element of a list of hits with nothing in it that makes the response unreadable. -/
def IsBenign (element : Value) : Prop :=
  ∀ hit, element = .obj hit ->
    (field hit "_source").isSection = true ∧
      (field (Hit.source hit) "text_id").isInfinite = false ∧
      (element.sourceTextId? ≠ none -> Hit.IsSound hit)

/-- A benign element leaves its response readable, and is read as a hit exactly when it has a
text id. -/
theorem IsBenign.harmless
    {element : Value}
    (benign : element.IsBenign) :
    element.Harmless ∧ element.hit?.map Hit.textId = element.sourceTextId? := by
  cases element with
  | obj hit =>
      obtain ⟨present, bounded, soundWithId⟩ := benign hit rfl
      cases found : sourceTextId? (.obj hit) with
      | none =>
          have outcome := Hit.read_of_no_textId present bounded found
          constructor
          · intro entries cause same fails
            cases same
            cases outcome.symm.trans fails
            rfl
          · simp [hit?, outcome, Except.toOption]
      | some textId =>
          rcases Hit.read_of_sourceTextId? found with ⟨_, parsed, outcome, same⟩ | ⟨unsound, _⟩
          · have reads : (Value.obj hit).hit? = some parsed := by
              simp [hit?, outcome, Except.toOption]
            exact ⟨harmless_of_hit? reads, by rw [reads, Option.map_some, same]⟩
          · exact absurd (soundWithId (by simp [found])) unsound
  | _ =>
      constructor
      · intro entries cause same
        cases same
      · rfl

/-- An element that is not benign makes its response unreadable. -/
theorem isBenign_of_harmless
    {element : Value}
    (harmless : element.Harmless) :
    element.IsBenign := by
  intro hit same
  subst same
  have present : (field hit "_source").isSection = true := by
    apply Bool.not_eq_false _ |>.mp
    intro other
    have fails : Hit.read hit = .error (.notAnObject (field hit "_source").kindName) := by
      simp [Hit.read, Hit.fields_of_not_isSection other, bind, Except.bind]
    cases harmless hit _ rfl fails
  have bounded : (field (Hit.source hit) "text_id").isInfinite = false := by
    apply Bool.eq_false_iff.2
    intro infinite
    have fails : Hit.read hit = .error .infinite := by
      unfold Hit.source at infinite
      simp [Hit.read, Hit.fields_of_isSection present, looseInteger_of_isInfinite infinite, bind,
        Except.bind]
    cases harmless hit _ rfl fails
  refine ⟨present, bounded, fun hasId => ?_⟩
  obtain ⟨textId, found⟩ := Option.ne_none_iff_exists'.1 hasId
  rcases Hit.read_of_sourceTextId? found with ⟨sound, _⟩ | ⟨_, cause, fails, refused⟩
  · exact sound
  · rw [harmless hit cause rfl fails] at refused
    cases refused

theorem looseCount_isOk_iff (value : Value) :
    (∃ count, value.looseCount = .ok count) ↔ value.isInfinite = false := by
  unfold looseCount
  cases infinite : value.isInfinite with
  | true => simp [looseInteger_of_isInfinite infinite, Except.map]
  | false => simp [looseInteger_of_not_isInfinite infinite, Except.map]

end Value

namespace Batch

open Value

/-- The value that the number of all hits is read from. -/
def totalValue : Value -> Value
  | .obj entries => field entries "value"
  | total => total

/-- A response with nothing in it that makes it unreadable. -/
structure IsReadable (payload : Entries Value) : Prop where
  took : (field payload "took").isInfinite = false
  elements : ∀ around elements, hitList? payload = some (around, elements) ->
    ∀ element ∈ elements, element.IsBenign
  total : ∀ around elements, hitList? payload = some (around, elements) ->
    (totalValue (field around "total")).isInfinite = false

/-- A batch that has every hit of its response: for each element with a text id the hit that the
element is read as, in order, and nothing where the response has no list of hits. -/
def KeepsHits (payload : Entries Value) (batch : Batch) : Prop :=
  match hitList? payload with
  | none => batch.hits = [] ∧ batch.total = 0
  | some (_, elements) =>
      batch.hits.map some =
          (elements.filter fun element => element.sourceTextId?.isSome).map Value.hit? ∧
        batch.hits.map Hit.textId = elements.filterMap sourceTextId?

/-- An element that makes its response unreadable ends the reading. -/
theorem harmless_of_readHits
    {elements : List Value}
    {hits : List Hit}
    (reads : (readHits elements).1 = .ok hits) :
    ∀ element ∈ elements, element.Harmless := by
  induction elements generalizing hits with
  | nil =>
      intro element member
      cases member
  | cons element rest inductionHypothesis =>
      have others : ∀ more, (readHits rest).1 = .ok more -> ∀ other ∈ rest, other.Harmless :=
        fun more restReads => inductionHypothesis restReads
      rw [List.forall_mem_cons]
      cases element with
      | obj entries =>
          cases outcome : Hit.read entries with
          | ok hit =>
              simp only [readHits, outcome] at reads
              obtain ⟨more, restReads, _⟩ := map_eq_ok reads
              refine ⟨?_, others more restReads⟩
              intro entries' cause same fails
              cases same
              cases outcome.symm.trans fails
          | error cause =>
              simp only [readHits, outcome] at reads
              cases skipped : cause.isSkipped with
              | false =>
                  rw [skipped] at reads
                  cases reads
              | true =>
                  rw [skipped, if_pos rfl] at reads
                  refine ⟨?_, others hits reads⟩
                  intro entries' cause' same fails
                  cases same
                  cases outcome.symm.trans fails
                  exact skipped
      | _ =>
          refine ⟨?_, others hits reads⟩
          intro entries cause same
          cases same

theorem readTotal_isOk_iff (value : Value) :
    (∃ total, readTotal value = .ok total) ↔ (totalValue value).isInfinite = false := by
  cases value <;> exact looseCount_isOk_iff _

/-- The hits of benign elements are those of the elements with a text id. -/
theorem map_some_filterMap_hit?
    {elements : List Value}
    (benign : ∀ element ∈ elements, element.IsBenign) :
    (elements.filterMap Value.hit?).map some =
      (elements.filter fun element => element.sourceTextId?.isSome).map Value.hit? := by
  induction elements with
  | nil => rfl
  | cons element rest inductionHypothesis =>
      obtain ⟨first, others⟩ := List.forall_mem_cons.1 benign
      have rest_eq := inductionHypothesis others
      obtain ⟨_, id_eq⟩ := first.harmless
      cases found : element.hit? with
      | none =>
          rw [found] at id_eq
          simp [List.filterMap_cons_none found, ← id_eq, rest_eq]
      | some hit =>
          rw [found] at id_eq
          simp [List.filterMap_cons_some found, found, ← id_eq, rest_eq]

/-- A response without a list of hits is read when its time can be read. -/
theorem read_of_no_list
    {payload : Entries Value}
    {took : Int}
    (tookReads : (field payload "took").looseCount = .ok took)
    (unlisted : hitList? payload = none) :
    (read payload).1 = .ok { hits := [], total := 0, took } := by
  simp only [read, tookReads, unlisted]

/-- A response that can be read keeps its hits. -/
theorem IsReadable.read_keepsHits
    {payload : Entries Value}
    (readable : IsReadable payload) :
    ∃ batch, (read payload).1 = .ok batch ∧ KeepsHits payload batch := by
  obtain ⟨took, tookReads⟩ := (looseCount_isOk_iff _).2 readable.took
  unfold KeepsHits
  cases listed : hitList? payload with
  | none => exact ⟨_, read_of_no_list tookReads listed, rfl, rfl⟩
  | some list =>
      obtain ⟨around, elements⟩ := list
      have benign := readable.elements around elements listed
      obtain ⟨total, totalReads⟩ := (readTotal_isOk_iff _).2 (readable.total around elements listed)
      refine ⟨_, read_of_harmless tookReads listed totalReads
        (fun element member => (benign element member).harmless.1),
        map_some_filterMap_hit? benign, ?_⟩
      rw [List.map_filterMap]
      exact List.filterMap_congr fun element member => (benign element member).harmless.2

/-- Whatever is read could be read. -/
theorem isReadable_of_read
    {payload : Entries Value}
    {batch : Batch}
    (reads : (read payload).1 = .ok batch) :
    IsReadable payload := by
  have tookReads : ∃ took, (field payload "took").looseCount = .ok took := by
    cases outcome : (field payload "took").looseCount with
    | error cause =>
        simp only [read, outcome] at reads
        cases reads
    | ok took => exact ⟨took, rfl⟩
  obtain ⟨took, tookReads⟩ := tookReads
  have listReads : ∀ around elements, hitList? payload = some (around, elements) ->
      ∃ hits total, (readHits elements).1 = .ok hits ∧
        readTotal (field around "total") = .ok total := by
    intro around elements listed
    simp only [read, tookReads, listed, bind, Except.bind] at reads
    cases hitsRead : (readHits elements).1 with
    | error cause => simp [hitsRead] at reads
    | ok hits =>
        cases totalRead : readTotal (field around "total") with
        | error cause => simp [hitsRead, totalRead] at reads
        | ok total => exact ⟨hits, total, rfl, rfl⟩
  refine ⟨(looseCount_isOk_iff _).1 ⟨took, tookReads⟩, ?_, ?_⟩
  · intro around elements listed element member
    obtain ⟨hits, _, hitsRead, _⟩ := listReads around elements listed
    exact isBenign_of_harmless (harmless_of_readHits hitsRead element member)
  · intro around elements listed
    obtain ⟨_, total, _, totalRead⟩ := listReads around elements listed
    exact (readTotal_isOk_iff _).1 ⟨total, totalRead⟩

/-- When a response is read and keeps its hits. It is read as a batch with every hit of its list,
in order, exactly when its time and its number of hits are no infinities and every element is
benign. Otherwise the whole response is refused. -/
theorem batch_keeps_every_hit_iff (payload : Entries Value) :
    ((∃ batch, (read payload).1 = .ok batch ∧ KeepsHits payload batch) ↔ IsReadable payload) ∧
      ((∃ cause, (read payload).1 = .error cause) ↔ ¬IsReadable payload) := by
  refine ⟨⟨?_, IsReadable.read_keepsHits⟩, ?_, ?_⟩
  · rintro ⟨batch, reads, _⟩
    exact isReadable_of_read reads
  · rintro ⟨cause, refused⟩ readable
    obtain ⟨batch, reads, _⟩ := readable.read_keepsHits
    cases refused.symm.trans reads
  · intro unreadable
    cases outcome : (read payload).1 with
    | error cause => exact ⟨cause, rfl⟩
    | ok batch => exact absurd (isReadable_of_read outcome) unreadable

/-- A response with an element whose page is no object, and a good element behind it. -/
def brokenPage : Entries Value :=
  [("took", .int 1),
    ("hits", .obj
      [("total", .int 2),
        ("hits", .list
          [.obj [("_source", .str "page")],
            .obj [("_source", .obj [("text_id", .int 7)])]])])]

/-- A single element can make a response unreadable that has a good hit. -/
theorem brokenPage_is_refused :
    (∃ around elements, hitList? brokenPage = some (around, elements) ∧
      elements.filterMap sourceTextId? = [7]) ∧
      ¬∃ batch, (read brokenPage).1 = .ok batch := by
  constructor
  · exact ⟨_, _, rfl, rfl⟩
  · rintro ⟨batch, reads⟩
    cases reads

end Batch
end Concordance
