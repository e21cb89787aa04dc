import Concordance.Hit.Reading

/-!
# What is read from a list of hits

An element of the list of a response is read as a hit, or left out with a note, or it makes
the whole response unreadable. Where no element does the last, the hits of a response are
the elements that can be read, in order.
-/

namespace Concordance
namespace Value

/-- The hit that an element of a list of hits is read as, none where it is left out. -/
def hit? : Value -> Option Hit
  | .obj entries => (Hit.read entries).toOption
  | _ => none

/-- An element that leaves its response readable: where it cannot be read as a hit, it is
left out. -/
def Harmless (element : Value) : Prop :=
  ∀ entries cause, element = .obj entries -> Hit.read entries = .error cause ->
    cause.isSkipped = true

/-- An element that is read as a hit leaves its response readable. -/
theorem harmless_of_hit?
    {element : Value}
    {hit : Hit}
    (found : element.hit? = some hit) :
    element.Harmless := by
  intro entries cause same fails
  subst same
  simp [hit?, fails, Except.toOption] at found

end Value

namespace Batch

/-- The hits of a list of harmless elements are those that can be read. -/
theorem readHits_of_harmless
    {elements : List Value}
    (harmless : ∀ element ∈ elements, element.Harmless) :
    (readHits elements).1 = .ok (elements.filterMap Value.hit?) := by
  induction elements with
  | nil => rfl
  | cons element rest inductionHypothesis =>
      obtain ⟨first, others⟩ := List.forall_mem_cons.1 harmless
      have rest_eq := inductionHypothesis others
      cases element with
      | obj entries =>
          cases outcome : Hit.read entries with
          | ok hit =>
              have found : (Value.obj entries).hit? = some hit := by
                simp [Value.hit?, outcome, Except.toOption]
              simp only [readHits, outcome, rest_eq, List.filterMap_cons_some found]
              rfl
          | error cause =>
              have missing : (Value.obj entries).hit? = none := by
                simp [Value.hit?, outcome, Except.toOption]
              have skipped := first entries cause rfl outcome
              simp only [readHits, outcome, skipped, if_true, List.filterMap_cons_none missing]
              exact rest_eq
      | _ => exact rest_eq

/-- A response with a list of harmless elements is read as a batch of those that are hits. -/
theorem read_of_harmless
    {payload around : Entries Value}
    {elements : List Value}
    {took total : Int}
    (tookReads : (Value.field payload "took").looseCount = .ok took)
    (listed : hitList? payload = some (around, elements))
    (totalReads : readTotal (Value.field around "total") = .ok total)
    (harmless : ∀ element ∈ elements, element.Harmless) :
    (read payload).1 = .ok { hits := elements.filterMap Value.hit?, total, took } := by
  have hits_eq := readHits_of_harmless harmless
  simp only [read, tookReads, listed, hits_eq, totalReads, bind, Except.bind, pure, Except.pure]

end Batch
end Concordance
