import Concordance.Session.Cache

/-!
# What a cache holds

A cache is determined by its lookups. This module says what each operation on a
cache does to the lookups, so that later proofs need not open the list of entries:
an overlay replaces the ranks of its hits and leaves all other ranks alone, and a
slice lists the hits of consecutive ranks, as far as there are any.
-/

namespace Concordance
namespace Cache

/-- Entries under ascending ranks are determined by their members. -/
theorem entries_eq_of_mem_iff
    {left right : List (Nat × Hit)}
    (leftAscending : left.Pairwise fun first second => first.1 < second.1)
    (rightAscending : right.Pairwise fun first second => first.1 < second.1)
    (same : ∀ entry, entry ∈ left ↔ entry ∈ right) :
    left = right := by
  have leftNodup : left.Nodup :=
    leftAscending.imp fun less equal => absurd (congrArg Prod.fst equal) (by omega)
  have rightNodup : right.Nodup :=
    rightAscending.imp fun less equal => absurd (congrArg Prod.fst equal) (by omega)
  have permuted : left.Perm right :=
    (List.perm_ext_iff_of_nodup leftNodup rightNodup).2 same
  refine permuted.eq_of_pairwise (fun first second _ _ less greater => ?_)
    leftAscending rightAscending
  omega

/-- A rank has the hit that stands beside it. -/
theorem get?_eq_some_iff (cache : Cache) (rank : Nat) (hit : Hit) :
    cache.get? rank = some hit ↔ (rank, hit) ∈ cache.entries := by
  obtain ⟨entries, ascending⟩ := cache
  simp only [get?]
  induction entries with
  | nil => simp
  | cons entry rest inductionHypothesis =>
      obtain ⟨first, firstHit⟩ := entry
      obtain ⟨below, restAscending⟩ := List.pairwise_cons.1 ascending
      by_cases same : first = rank
      · subst same
        have absent : (first, hit) ∉ rest := fun member => by
          have := below (first, hit) member
          omega
        simp [absent, eq_comm]
      · have different : (rank, hit) ≠ (first, firstHit) := fun equal =>
          same (congrArg Prod.fst equal).symm
        simp [same, different, inductionHypothesis restAscending]

theorem has_eq_isSome (cache : Cache) (rank : Nat) :
    cache.has rank = (cache.get? rank).isSome := by
  rw [Bool.eq_iff_iff, get?, Option.isSome_map, List.find?_isSome]
  simp [has]

/-- Two caches with the same lookups are equal. -/
theorem ext_get?
    {left right : Cache}
    (same : ∀ rank, left.get? rank = right.get? rank) :
    left = right := by
  have entriesEqual : left.entries = right.entries :=
    entries_eq_of_mem_iff left.ascending right.ascending fun (rank, hit) => by
      rw [← get?_eq_some_iff, ← get?_eq_some_iff, same]
  cases left
  cases right
  simpa using entriesEqual

/-- Numbered hits stand under the ranks that follow the first one. -/
theorem mem_numbered_iff (first : Nat) (hits : List Hit) (rank : Nat) (hit : Hit) :
    (rank, hit) ∈ numbered first hits ↔
      first ≤ rank ∧ hits[rank - first]? = some hit := by
  induction hits generalizing first with
  | nil => simp [numbered]
  | cons head tail inductionHypothesis =>
      simp only [numbered, List.mem_cons, Prod.mk.injEq, inductionHypothesis]
      rcases Nat.lt_trichotomy rank first with before | here | after
      · omega
      · subst here
        have notLater : ¬rank + 1 ≤ rank := by omega
        simp [notLater, eq_comm]
      · have shifted : rank - first = rank - (first + 1) + 1 := by omega
        rw [shifted, List.getElem?_cons_succ]
        constructor
        · rintro (⟨equal, _⟩ | ⟨_, found⟩)
          · omega
          · exact ⟨by omega, found⟩
        · rintro ⟨_, found⟩
          exact .inr ⟨by omega, found⟩

/-- An overlay replaces the ranks of its hits and leaves all other ranks alone. -/
theorem get?_overlay (cache : Cache) (first : Nat) (hits : List Hit) (rank : Nat) :
    (cache.overlay first hits).get? rank =
      if first ≤ rank ∧ rank < first + hits.length then hits[rank - first]?
      else cache.get? rank := by
  ext hit
  rw [get?_eq_some_iff]
  simp only [overlay, List.mem_append, List.mem_filter, mem_numbered_iff,
    decide_eq_true_eq]
  split
  · rename_i inside
    constructor
    · rintro (⟨_, below⟩ | ⟨_, found⟩ | ⟨_, above⟩)
      · omega
      · exact found
      · omega
    · intro found
      exact .inr (.inl ⟨inside.1, found⟩)
  · rename_i outside
    rw [get?_eq_some_iff]
    constructor
    · rintro (⟨member, _⟩ | ⟨reached, found⟩ | ⟨member, _⟩)
      · exact member
      · have := (List.getElem?_eq_some_iff.1 found).1
        omega
      · exact member
    · intro member
      rcases Nat.lt_or_ge rank first with below | reached
      · exact .inl ⟨member, below⟩
      · exact .inr (.inr ⟨member, by omega⟩)

/-- A slice lists the hits of consecutive ranks in order; ranks without a hit are
skipped. -/
theorem slice_eq_filterMap (cache : Cache) (first count : Nat) :
    cache.slice first count = (List.range' first count).filterMap cache.get? := by
  have entriesEqual :
      cache.entries.filter
          (fun entry => first ≤ entry.1 && entry.1 < first + count) =
        (List.range' first count).filterMap
          (fun rank => (cache.get? rank).map fun hit => (rank, hit)) := by
    refine entries_eq_of_mem_iff (cache.ascending.filter _) ?_ fun (rank, hit) => ?_
    · refine (List.pairwise_lt_range' (s := first) (n := count)).filterMap _ ?_
      intro left right less leftEntry leftFound rightEntry rightFound
      obtain ⟨_, _, rfl⟩ := Option.map_eq_some_iff.1 leftFound
      obtain ⟨_, _, rfl⟩ := Option.map_eq_some_iff.1 rightFound
      exact less
    · simp only [List.mem_filter, List.mem_filterMap, List.mem_range'_1,
        Option.map_eq_some_iff, Prod.mk.injEq, Bool.and_eq_true, decide_eq_true_eq]
      constructor
      · rintro ⟨member, inside⟩
        exact ⟨rank, inside, hit, (get?_eq_some_iff cache rank hit).2 member, rfl, rfl⟩
      · rintro ⟨_, inside, _, found, rfl, rfl⟩
        exact ⟨(get?_eq_some_iff cache _ _).1 found, inside⟩
  have hitsEqual := congrArg (List.map Prod.snd) entriesEqual
  rw [List.map_filterMap] at hitsEqual
  simpa only [slice, Option.map_map, Function.comp_def, Option.map_id'] using hitsEqual

end Cache
end Concordance
