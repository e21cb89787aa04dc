import Concordance.Proofs.Hit.Reading
import Mathlib.Data.List.Nodup

/-!
# A walk that counts hits among elements

An index counts its elements, and an export counts the hits that came. So after a chunk with
elements that are no hits the next chunk begins too early, and a chunk without any hit ends
the walk.

The walk is a recursion on the elements that are ahead, and the statements about it are
inductions along this recursion: it brings every hit once when all skipped elements stand
last, and where the hits are distinct only then.
-/

namespace Concordance
namespace Session

/-- The hits among the first elements. -/
def chunkHits (size : Nat) (elements : List Value) : List Hit :=
  (elements.take size).filterMap Value.hit?

theorem length_chunkHits_le (size : Nat) (elements : List Value) :
    (chunkHits size elements).length ≤ min size elements.length := by
  unfold chunkHits
  rw [← List.length_take]
  exact List.length_filterMap_le _ _

/-- The hits that are collected from elements, in chunks of a size. The next chunk begins as
many elements further on as the chunk before it had hits, and a chunk without hits is the
last one. -/
def collected (size : Nat) (elements : List Value) : List Hit :=
  if chunkHits size elements = [] then []
  else
    chunkHits size elements ++
      collected size (elements.drop (chunkHits size elements).length)
termination_by elements.length
decreasing_by
  rename_i noHits
  have someHits := List.length_pos_iff.2 noHits
  have hits_le := length_chunkHits_le size elements
  rw [List.length_drop]
  omega

/-- No element that is left out stands before a hit. -/
def SkippedStandLast (elements : List Value) : Prop :=
  elements.Pairwise fun earlier later => earlier.hit? = none -> later.hit? = none

section Walk

variable {size : Nat} {elements : List Value} {hit : Hit}

/-- The hits among elements are those of the first chunk, and those behind it. -/
theorem filterMap_eq_chunkHits_append (size : Nat) (elements : List Value) :
    elements.filterMap Value.hit? =
      chunkHits size elements ++ (elements.drop size).filterMap Value.hit? := by
  rw [chunkHits, ← List.filterMap_append, List.take_append_drop]

theorem collected_of_no_hits (noHits : chunkHits size elements = []) :
    collected size elements = [] := by
  rw [collected, if_pos noHits]

theorem collected_of_hits (someHits : chunkHits size elements ≠ []) :
    collected size elements =
      chunkHits size elements ++
        collected size (elements.drop (chunkHits size elements).length) := by
  rw [collected, if_neg someHits]

@[simp] theorem collected_nil (size : Nat) : collected size [] = [] :=
  collected_of_no_hits (by simp [chunkHits])

/-- Whatever is collected is the hit of an element. -/
theorem mem_filterMap_of_mem_collected (member : hit ∈ collected size elements) :
    hit ∈ elements.filterMap Value.hit? := by
  induction elements using collected.induct size with
  | case1 elements noHits =>
      rw [collected_of_no_hits noHits] at member
      cases member
  | case2 elements someHits inductionHypothesis =>
      rw [collected_of_hits someHits, List.mem_append] at member
      rcases member with now | later
      · rw [filterMap_eq_chunkHits_append size]
        exact List.mem_append_left _ now
      · have ahead := List.drop_sublist (chunkHits size elements).length elements
        exact (ahead.filterMap _).subset (inductionHypothesis later)

theorem mem_collected_of_mem_chunkHits (member : hit ∈ chunkHits size elements) :
    hit ∈ collected size elements := by
  rw [collected_of_hits (List.ne_nil_of_mem member)]
  exact List.mem_append_left _ member

/-- Where the skipped elements stand last, elements and hits can be dropped alike. -/
theorem SkippedStandLast.filterMap_drop
    (last : SkippedStandLast elements)
    (count : Nat) :
    (elements.drop count).filterMap Value.hit? =
      (elements.filterMap Value.hit?).drop count := by
  induction elements generalizing count with
  | nil => simp
  | cons element rest inductionHypothesis =>
      obtain ⟨first, others⟩ := List.pairwise_cons.1 last
      cases count with
      | zero => rfl
      | succ count =>
          rw [List.drop_succ_cons, inductionHypothesis others]
          cases found : element.hit? with
          | some hit => rw [List.filterMap_cons_some found, List.drop_succ_cons]
          | none =>
              have noHits : rest.filterMap Value.hit? = [] :=
                List.filterMap_eq_nil_iff.2 fun other member => first other member found
              rw [List.filterMap_cons_none found, noHits, List.drop_nil, List.drop_nil]

/-- Without a hit in the first chunk there is no hit at all, where the skipped elements stand
last. -/
theorem SkippedStandLast.filterMap_eq_nil
    (last : SkippedStandLast elements)
    (positive : 0 < size)
    (noHits : chunkHits size elements = []) :
    elements.filterMap Value.hit? = [] := by
  cases elements with
  | nil => rfl
  | cons element rest =>
      obtain ⟨first, _⟩ := List.pairwise_cons.1 last
      have inChunk : element ∈ (element :: rest).take size := by
        cases size with
        | zero => cases positive
        | succ size => exact List.mem_cons_self
      have missing := List.filterMap_eq_nil_iff.1 noHits element inChunk
      rw [List.filterMap_cons_none missing]
      exact List.filterMap_eq_nil_iff.2 fun other member => first other member missing

/-- Where the skipped elements stand last, every hit is collected once. -/
theorem SkippedStandLast.collected_eq
    (last : SkippedStandLast elements)
    (positive : 0 < size) :
    collected size elements = elements.filterMap Value.hit? := by
  induction elements using collected.induct size with
  | case1 elements noHits =>
      rw [collected_of_no_hits noHits, last.filterMap_eq_nil positive noHits]
  | case2 elements someHits inductionHypothesis =>
      have ahead : SkippedStandLast (elements.drop (chunkHits size elements).length) :=
        last.sublist (List.drop_sublist _ _)
      rw [collected_of_hits someHits]
      calc
        chunkHits size elements ++
          collected size (elements.drop (chunkHits size elements).length)
        _ = chunkHits size elements ++
            (elements.filterMap Value.hit?).drop (chunkHits size elements).length := by
          rw [inductionHypothesis ahead, last.filterMap_drop]
        _ = elements.filterMap Value.hit? := by
          rw [filterMap_eq_chunkHits_append size elements, List.drop_left]

/-- The elements of a chunk from the number of its hits on are asked for again. They are no
hits, where the hits are distinct and what is collected behind the chunk stands behind it. -/
theorem hit?_eq_none_of_asked_again
    (distinct : (elements.filterMap Value.hit?).Nodup)
    (ahead_eq :
      collected size (elements.drop (chunkHits size elements).length) =
        (elements.drop size).filterMap Value.hit?)
    {element : Value}
    (member : element ∈ (elements.take size).drop (chunkHits size elements).length) :
    element.hit? = none := by
  apply Option.eq_none_iff_forall_ne_some.2
  intro hit found
  have now : hit ∈ chunkHits size elements :=
    List.mem_filterMap.2 ⟨element, List.mem_of_mem_drop member, found⟩
  have again : hit ∈ collected size (elements.drop (chunkHits size elements).length) := by
    apply mem_collected_of_mem_chunkHits
    rw [List.drop_take] at member
    have inNext := List.take_subset_take_left _ (Nat.sub_le size _) member
    exact List.mem_filterMap.2 ⟨element, inNext, found⟩
  rw [ahead_eq] at again
  rw [filterMap_eq_chunkHits_append size] at distinct
  exact List.disjoint_of_nodup_append distinct now again

/-- The elements ahead that are asked for again, and those behind the chunk, are all that is
ahead of the next chunk. -/
theorem drop_length_chunkHits (size : Nat) (elements : List Value) :
    elements.drop (chunkHits size elements).length =
      (elements.take size).drop (chunkHits size elements).length ++ elements.drop size := by
  have fits := length_chunkHits_le size elements
  rw [← List.length_take] at fits
  rw [← List.drop_append_of_le_length fits, List.take_append_drop]

/-- A chunk begins with its hits, where the elements that are asked for again are no hits. -/
theorem hit?_ne_none_of_first
    (againMissing : ∀ element ∈ (elements.take size).drop (chunkHits size elements).length,
      element.hit? = none)
    {element : Value}
    (member : element ∈ elements.take (chunkHits size elements).length) :
    element.hit? ≠ none := by
  have fits := length_chunkHits_le size elements
  have first_eq :
      (elements.take size).take (chunkHits size elements).length =
        elements.take (chunkHits size elements).length := by
    rw [List.take_take, Nat.min_eq_left (by omega)]
  have hits_eq :
      (elements.take (chunkHits size elements).length).filterMap Value.hit? =
        chunkHits size elements := by
    conv_rhs =>
      rw [chunkHits, ← List.take_append_drop (chunkHits size elements).length
        (elements.take size)]
    rw [List.filterMap_append, List.filterMap_eq_nil_iff.2 againMissing, List.append_nil,
      first_eq]
  have allHits :
      ((elements.take (chunkHits size elements).length).filterMap Value.hit?).length =
        (elements.take (chunkHits size elements).length).length := by
    rw [hits_eq, List.length_take, Nat.min_eq_left (by omega)]
  have found := List.filterMap_length_eq_length.1 allHits element member
  exact Option.isSome_iff_ne_none.1 found

/-- Where the hits are distinct and every hit is collected once, the skipped elements stand
last. -/
theorem skippedStandLast_of_collected_eq
    (distinct : (elements.filterMap Value.hit?).Nodup)
    (once : collected size elements = elements.filterMap Value.hit?) :
    SkippedStandLast elements := by
  induction elements using collected.induct size with
  | case1 elements noHits =>
      rw [collected_of_no_hits noHits] at once
      have missing := List.filterMap_eq_nil_iff.1 once.symm
      apply List.pairwise_of_forall_mem_list
      intro earlier _ later member _
      exact missing later member
  | case2 elements someHits inductionHypothesis =>
      have ahead_eq := once
      rw [collected_of_hits someHits, filterMap_eq_chunkHits_append size,
        List.append_cancel_left_eq] at ahead_eq
      have againMissing :
          ∀ element ∈ (elements.take size).drop (chunkHits size elements).length,
            element.hit? = none :=
        fun element member => hit?_eq_none_of_asked_again distinct ahead_eq member
      have aheadHits_eq :
          (elements.drop (chunkHits size elements).length).filterMap Value.hit? =
            (elements.drop size).filterMap Value.hit? := by
        rw [drop_length_chunkHits, List.filterMap_append,
          List.filterMap_eq_nil_iff.2 againMissing, List.nil_append]
      have aheadDistinct :
          ((elements.drop (chunkHits size elements).length).filterMap Value.hit?).Nodup :=
        distinct.sublist ((List.drop_sublist _ _).filterMap _)
      have ahead := inductionHypothesis aheadDistinct (ahead_eq.trans aheadHits_eq.symm)
      have found :
          ∀ element ∈ elements.take (chunkHits size elements).length, element.hit? ≠ none :=
        fun element member => hit?_ne_none_of_first againMissing member
      rw [← List.take_append_drop (chunkHits size elements).length elements]
      refine List.pairwise_append.2 ⟨?_, ahead, ?_⟩
      · apply List.pairwise_of_forall_mem_list
        intro earlier member later _ missing
        exact absurd missing (found earlier member)
      · intro earlier member later _ missing
        exact absurd missing (found earlier member)

end Walk

end Session
end Concordance
