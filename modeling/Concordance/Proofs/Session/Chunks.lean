import Concordance.Session.Export

/-!
# The chunks of an export

An export asks for one chunk after another. A chunk is not empty, and it is cut to the window, so
it ends inside the window wherever it begins.
-/

namespace Concordance
namespace Session
namespace Export

/-- The chunk that begins below the window is asked for, cut to the window. -/
theorem chunkQuery_eq
    {walk : Export}
    {size offset : Nat}
    (size_eq : walk.chunkSize = size)
    (positive : 0 < size)
    (inWindow : offset < walk.window) :
    walk.chunkQuery offset =
      .ok { walk.base with offset, size := (min size (walk.window - offset) : Nat) } := by
  have cut :
      min walk.chunkSize (walk.window - offset : Nat) =
        ((min size (walk.window - offset) : Nat) : Int) := by
    omega
  have reached : ¬(offset : Int) < 0 := by omega
  have nonempty : ¬((min size (walk.window - offset) : Nat) : Int) ≤ 0 := by omega
  unfold chunkQuery SearchRequest.withWindow
  rw [cut, if_neg reached, if_neg nonempty]

/-- An export without a chunk size, or with a positive one, has chunks that are not empty. -/
theorem exists_chunkSize
    (setup : Setup)
    {chunkSize : Option Int}
    (positive : ∀ size, chunkSize = some size -> 1 ≤ size) :
    ∃ size : Nat, 0 < size ∧
      (if chunkSize.getD 0 = 0 then (setup.paging.batchSize : Int) else chunkSize.getD 0) =
        size := by
  cases chunkSize with
  | none => exact ⟨_, setup.paging.batchSize_pos, rfl⟩
  | some given =>
      have given_pos := positive given rfl
      refine ⟨given.toNat, by omega, ?_⟩
      rw [Option.getD_some, if_neg (by omega), Int.toNat_of_nonneg (by omega)]

/-- An export without a chunk size has chunks of the size of a batch, and one with a positive
size has chunks of this size. -/
theorem chunkSize_eq_getD
    (setup : Setup)
    {chunkSize : Option Int}
    (positive : ∀ size, chunkSize = some size -> 1 ≤ size) :
    (if chunkSize.getD 0 = 0 then (setup.paging.batchSize : Int) else chunkSize.getD 0) =
      chunkSize.getD setup.paging.batchSize := by
  cases chunkSize with
  | none => rfl
  | some given =>
      have given_pos := positive given rfl
      rw [Option.getD_some, Option.getD_some, if_neg (by omega)]

/-- Nothing is ahead at the end of a list or of the window. -/
theorem ahead_eq_nil
    {α : Type}
    {window offset : Nat}
    {items : List α}
    (ended : window ≤ offset ∨ items.length ≤ offset) :
    (items.take window).drop offset = [] := by
  apply List.drop_of_length_le
  rw [List.length_take]
  omega

/-- An export of an active search that compiles begins. -/
theorem ofState_eq_ok
    {ε : Type}
    {setup : Setup}
    {state : State ε}
    {search : Search}
    {base : Query}
    (active : state.search = some search)
    (compiles : batchQuery setup search 0 = .ok base)
    (chunkSize : Option Int) :
    (ofState setup state chunkSize : Except (ExportError ε) Export) =
      .ok
        { base
          chunkSize :=
            if chunkSize.getD 0 = 0 then setup.paging.batchSize else chunkSize.getD 0
          window := setup.paging.window } := by
  rw [ofState, active]
  dsimp only
  rw [compiles]
  rfl

/-- The chunks of an export are not empty, and its window is that of the session. -/
theorem sizes_of_ofState
    {ε : Type}
    {setup : Setup}
    {state : State ε}
    {chunkSize : Option Int}
    {walk : Export}
    (positive : ∀ size, chunkSize = some size -> 1 ≤ size)
    (begins : (ofState setup state chunkSize : Except (ExportError ε) Export) = .ok walk) :
    ∃ size : Nat, 0 < size ∧ walk.chunkSize = size ∧ walk.window = setup.paging.window := by
  unfold ofState at begins
  split at begins
  · cases begins
  · rename_i search _
    cases compiles : batchQuery setup search 0 with
    | error cause =>
        rw [compiles] at begins
        cases begins
    | ok base =>
        rw [compiles] at begins
        cases begins
        obtain ⟨size, size_pos, size_eq⟩ := exists_chunkSize setup positive
        exact ⟨size, size_pos, size_eq, rfl⟩

end Export
end Session
end Concordance
