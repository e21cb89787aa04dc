import Concordance.Hit

/-!
# The sparse cache

Hits that were fetched are kept under their ranks, in ascending order of rank.
A batch is laid over the ranks from its first one on; all other ranks keep their
hits.
-/

namespace Concordance

/-- Hits under ascending ranks. -/
structure Cache where
  entries : List (Nat × Hit)
  ascending : entries.Pairwise fun left right => left.1 < right.1

namespace Cache

/-- The cache without hits. -/
def empty : Cache := ⟨[], .nil⟩

/-- The hit of a rank. -/
def get? (cache : Cache) (rank : Nat) : Option Hit :=
  (cache.entries.find? fun entry => entry.1 == rank).map Prod.snd

/-- Whether a rank has a hit. -/
def has (cache : Cache) (rank : Nat) : Bool :=
  cache.entries.any fun entry => entry.1 == rank

/-- The ranks that have a hit, in ascending order. -/
def ranks (cache : Cache) : List Nat :=
  cache.entries.map Prod.fst

/-- The hits at `count` ranks from `first` on, as far as there are any. -/
def slice (cache : Cache) (first count : Nat) : List Hit :=
  (cache.entries.filter fun entry => first ≤ entry.1 && entry.1 < first + count).map Prod.snd

/-- Hits under consecutive ranks. -/
def numbered (first : Nat) : List Hit -> List (Nat × Hit)
  | [] => []
  | hit :: hits => (first, hit) :: numbered (first + 1) hits

/-- Numbered hits have ranks from the first one on. -/
theorem bounds_of_mem_numbered
    {first : Nat}
    {hits : List Hit}
    {entry : Nat × Hit}
    (member : entry ∈ numbered first hits) :
    first ≤ entry.1 ∧ entry.1 < first + hits.length := by
  induction hits generalizing first with
  | nil => simp [numbered] at member
  | cons hit hits inductionHypothesis =>
      simp only [numbered, List.mem_cons, List.length_cons] at member ⊢
      rcases member with same | later
      · subst same
        exact ⟨Nat.le_refl _, by simp⟩
      · have bounds := inductionHypothesis later
        omega

/-- Numbered hits have ascending ranks. -/
theorem numbered_ascending (first : Nat) (hits : List Hit) :
    (numbered first hits).Pairwise fun left right => left.1 < right.1 := by
  induction hits generalizing first with
  | nil => exact .nil
  | cons hit hits inductionHypothesis =>
      refine .cons (fun entry member => ?_) (inductionHypothesis (first + 1))
      have bounds := bounds_of_mem_numbered member
      omega

/-- Lay hits over the ranks from `first` on. -/
def overlay (cache : Cache) (first : Nat) (hits : List Hit) : Cache where
  entries :=
    cache.entries.filter (fun entry => entry.1 < first) ++
      (numbered first hits ++
        cache.entries.filter (fun entry => first + hits.length ≤ entry.1))
  ascending := by
    refine List.pairwise_append.2 ⟨cache.ascending.filter _, ?_, ?_⟩
    · refine List.pairwise_append.2
        ⟨numbered_ascending first hits, cache.ascending.filter _, ?_⟩
      intro left leftMember right rightMember
      have leftBounds := bounds_of_mem_numbered leftMember
      have rightBound : first + hits.length ≤ right.1 := by
        simpa using (List.mem_filter.1 rightMember).2
      omega
    · intro left leftMember right rightMember
      have leftBound : left.1 < first := by simpa using (List.mem_filter.1 leftMember).2
      rcases List.mem_append.1 rightMember with fresh | old
      · have rightBounds := bounds_of_mem_numbered fresh
        omega
      · have rightBound : first + hits.length ≤ right.1 := by
          simpa using (List.mem_filter.1 old).2
        omega

@[simp] theorem ranks_empty : empty.ranks = [] := rfl

@[simp] theorem get?_empty (rank : Nat) : empty.get? rank = none := rfl

end Cache
end Concordance
