import Concordance.Proofs.Backend.Gateway
import Concordance.Proofs.Session.Chunks
import Concordance.Proofs.Session.Generations
import Concordance.Proofs.Session.Walk

/-!
# Exporting past elements that are no hits

An export asks an index through a gateway, which leaves out the elements that are no hits.
Each export of a session is a walk through the elements inside the window, whatever the
session did before; it never fails, and it is exact exactly when the walk is.
-/

namespace Concordance
namespace Session

variable {ε : Type}

namespace Export

section Run

variable
  (walk : Export)
  {gateway : Backend.Gateway}
  {send : Backend.Post -> Except Backend.TransportError Backend.Reply}
  {index : List Value}
  {size : Nat}
  (positive : 0 < size)
  (sameWindow : gateway.window = walk.window)
  (serves : gateway.Serves send walk.base index)
  (harmless : ∀ element ∈ index, element.Harmless)
  (state : State Backend.GatewayError)

include positive sameWindow serves harmless

/-- The chunk that begins below the window brings the hits among its elements. -/
theorem chunk_run
    {offset : Nat}
    (inWindow : offset < walk.window) :
    ∃ took,
      (gateway.executeAlone send
          { walk.base with offset, size := (min size (walk.window - offset) : Nat) }).run state =
        pure
          (.ok
            { hits := chunkHits size ((index.take walk.window).drop offset)
              total := index.length
              took },
            state) := by
  have chunk_eq :
      ((index.drop offset).take (min size (walk.window - offset))).filterMap Value.hit? =
        chunkHits size ((index.take walk.window).drop offset) := by
    rw [chunkHits, List.drop_take, List.take_take]
  have asked : 0 < min size (walk.window - offset) := by omega
  have insideGateway :
      ((offset + min size (walk.window - offset) : Nat) : Int) ≤ gateway.window := by
    omega
  rw [← chunk_eq]
  exact serves.executeAlone_run harmless asked insideGateway state

/-- An export from a rank on collects the elements from this rank to the window, and does not
fail. -/
theorem collectFrom_run
    (size_eq : walk.chunkSize = size)
    (offset : Nat) :
    (walk.collectFrom (gateway.executeAlone send) none offset).run state =
      pure ((collected size ((index.take walk.window).drop offset), none), state) := by
  induction remaining : walk.window - offset using Nat.strongRecOn generalizing offset with
  | ind remaining inductionHypothesis =>
      rw [collectFrom]
      by_cases inWindow : offset < walk.window
      · obtain ⟨took, answer⟩ := walk.chunk_run positive sameWindow serves harmless state inWindow
        rw [dif_pos inWindow, chunkQuery_eq size_eq positive inWindow]
        simp only [StateT.run_bind, answer, pure_bind]
        by_cases noHits : chunkHits size ((index.take walk.window).drop offset) = []
        · rw [dif_pos noHits, collected_of_no_hits noHits]
          rfl
        · rw [dif_neg noHits, collected_of_hits noHits, List.drop_drop]
          have someHits := List.length_pos_iff.2 noHits
          simp only [Bool.false_eq_true, if_false]
          split
          · rename_i reported
            rw [ahead_eq_nil (.inr (Int.ofNat_le.1 reported)), collected_nil, List.append_nil]
            rfl
          · rw [StateT.run_bind, Option.map_none, inductionHypothesis _ _ _ rfl]
            · rfl
            · omega
      · rw [dif_neg inWindow, ahead_eq_nil (.inl (Nat.not_lt.1 inWindow)), collected_nil]
        rfl

end Run

end Export

/-- The hits that a session exports through a gateway, and the failure that ends the export
where there is one. -/
def exported
    (setup : Setup)
    (gateway : Backend.Gateway)
    (send : Backend.Post -> Except Backend.TransportError Backend.Reply)
    (state : State Backend.GatewayError)
    (chunkSize : Option Int) :
    List Hit × Option (ExportError Backend.GatewayError) :=
  ((exportHits setup (gateway.executeAlone send) chunkSize none).run state).run.1

section Exported

variable
  {setup : Setup}
  {world : World Backend.GatewayError}
  {search : Search}
  {gateway : Backend.Gateway}
  {send : Backend.Post -> Except Backend.TransportError Backend.Reply}
  {index : List Value}
  {chunkSize : Option Int}

/-- An export is a walk through the elements inside the window, and does not fail. -/
theorem exported_eq_collected
    (reachable : Reachable setup world)
    (active : world.state.search = some search)
    (sameWindow : gateway.window = setup.paging.window)
    (serves : ∀ base, batchQuery setup search 0 = .ok base -> gateway.Serves send base index)
    (harmless : ∀ element ∈ index, element.Harmless)
    (positive : ∀ size, chunkSize = some size -> 1 ≤ size) :
    ∃ size, 0 < size ∧
      exported setup gateway send world.state chunkSize =
        (collected size (index.take setup.paging.window), none) := by
  obtain ⟨base, compiles⟩ := reachable.search_compiles active
  obtain ⟨size, size_pos, size_eq⟩ := Export.exists_chunkSize setup positive
  refine ⟨size, size_pos, ?_⟩
  have begins := Export.ofState_eq_ok active compiles chunkSize
  rw [size_eq] at begins
  have walked :=
    Export.collectFrom_run { base, chunkSize := size, window := setup.paging.window }
      size_pos sameWindow (serves base compiles) harmless world.state rfl 0
  simp [exported, exportHits, begins, walked]

/-- When an export is exact. An export never fails, and brings only hits of the elements
inside the window. It brings each of them once and in order when no skipped element stands
before a hit, and where the hits are distinct only then. -/
theorem export_is_exact_iff_skipped_stand_last
    (reachable : Reachable setup world)
    (active : world.state.search = some search)
    (sameWindow : gateway.window = setup.paging.window)
    (serves : ∀ base, batchQuery setup search 0 = .ok base -> gateway.Serves send base index)
    (harmless : ∀ element ∈ index, element.Harmless)
    (positive : ∀ size, chunkSize = some size -> 1 ≤ size) :
    ∃ hits,
      exported setup gateway send world.state chunkSize = (hits, none) ∧
      (∀ hit ∈ hits, hit ∈ (index.take setup.paging.window).filterMap Value.hit?) ∧
      (SkippedStandLast (index.take setup.paging.window) ->
        hits = (index.take setup.paging.window).filterMap Value.hit?) ∧
      (((index.take setup.paging.window).filterMap Value.hit?).Nodup ->
        hits = (index.take setup.paging.window).filterMap Value.hit? ->
          SkippedStandLast (index.take setup.paging.window)) := by
  obtain ⟨size, size_pos, exported_eq⟩ :=
    exported_eq_collected reachable active sameWindow serves harmless positive
  refine ⟨_, exported_eq, ?_, ?_, ?_⟩
  · intro hit member
    exact mem_filterMap_of_mem_collected member
  · intro last
    exact last.collected_eq size_pos
  · intro distinct once
    exact skippedStandLast_of_collected_eq distinct once

end Exported

/-- A session with two hits in a batch and a window of two, for examples of exports. -/
def narrowSetup : Setup where
  paging :=
    { batchSize := 2
      pageSize := 1
      window := 2
      pageSize_pos := Nat.one_pos
      batchSize_pos := Nat.two_pos
      pageSize_dvd_batchSize := Nat.one_dvd 2
      window_pos := Nat.two_pos }

/-- A gateway with the same window. -/
def narrowGateway : Backend.Gateway where
  endpoint := { baseUrl := "http://index", index := "pages" }
  window := 2

/-- A search that is answered. -/
def answeredSearch : List (Event Backend.GatewayError) :=
  [.start (.search (wordSearch "word") none 1), .resume 0 (.ok (hitsAt ["hit7"]))]

/-- An element that is read as a hit. -/
def hitElement (textId : Int) : Value :=
  .obj [("_source", .obj [("text_id", .int textId)])]

theorem hitElement_harmless (textId : Int) : (hitElement textId).Harmless :=
  Value.harmless_of_hit? rfl

theorem null_harmless : Value.null.Harmless := by
  intro entries cause same
  cases same

/-- The index serves the gateway when what it prints for the three windows of ranks can be
read back. -/
theorem narrowGateway_serves
    {index : List Value}
    (first : Backend.ReadsBack index 0 1)
    (second : Backend.ReadsBack index 1 1)
    (both : Backend.ReadsBack index 0 2)
    (base : Query) :
    narrowGateway.Serves (Backend.printedIndex index) base index := by
  apply Backend.printedIndex_serves
  intro offset size positive inWindow
  have fits : ((offset + size : Nat) : Int) ≤ 2 := inWindow
  have windows :
      (offset = 0 ∧ size = 1) ∨ (offset = 1 ∧ size = 1) ∨ (offset = 0 ∧ size = 2) := by
    omega
  rcases windows with ⟨rfl, rfl⟩ | ⟨rfl, rfl⟩ | ⟨rfl, rfl⟩
  · exact first
  · exact second
  · exact both

/-- An index with a hit, and an element behind it that is none. -/
def hitFirst : List Value := [hitElement 7, .null]

/-- An export brings a hit before skipped elements once. -/
theorem export_of_hitFirst_is_exact :
    ∃ world hits,
      (World.initial 0 2000).run? narrowSetup answeredSearch = some world ∧
      exported narrowSetup narrowGateway (Backend.printedIndex hitFirst) world.state none =
        (hits, none) ∧
      hits.map Hit.textId = [7] := by
  have summary :
      ((World.initial 0 2000).run? narrowSetup answeredSearch).map
          (fun world => world.state.search) =
        some (some (wordSearch "word")) := by
    rfl
  obtain ⟨world, runs, active⟩ := Option.map_eq_some_iff.1 summary
  have serves : ∀ base, narrowGateway.Serves (Backend.printedIndex hitFirst) base hitFirst :=
    narrowGateway_serves (by decide +kernel) (by decide +kernel) (by decide +kernel)
  have harmless : ∀ element ∈ hitFirst, element.Harmless := by
    simp [hitFirst, hitElement_harmless, null_harmless]
  have last : SkippedStandLast (hitFirst.take narrowSetup.paging.window) := by
    simp [SkippedStandLast, hitFirst, narrowSetup, Value.hit?]
  have positive : ∀ size, (none : Option Int) = some size -> 1 ≤ size := by
    intro size same
    cases same
  obtain ⟨hits, exported_eq, _, once, _⟩ :=
    export_is_exact_iff_skipped_stand_last ((Reachable.initial 0 2000).run? runs) active
      (rfl : narrowGateway.window = narrowSetup.paging.window)
      (fun base _ => serves base) harmless positive
  refine ⟨world, hits, runs, exported_eq, ?_⟩
  rw [once last]
  rfl

/-- An index with an element that is no hit, and a hit behind it. -/
def hitBehind : List Value := [.null, hitElement 7]

/-- An export brings a hit behind a skipped element twice, or not at all where each is asked
for alone. -/
theorem hitBehind_is_exported_twice_or_lost :
    ∃ world,
      (World.initial 0 2000).run? narrowSetup answeredSearch = some world ∧
      (∀ base, narrowGateway.Serves (Backend.printedIndex hitBehind) base hitBehind) ∧
      (∀ element ∈ hitBehind, element.Harmless) ∧
      (hitBehind.filterMap Value.hit?).map Hit.textId = [7] ∧
      (exported narrowSetup narrowGateway (Backend.printedIndex hitBehind)
        world.state none).1.map Hit.textId = [7, 7] ∧
      (exported narrowSetup narrowGateway (Backend.printedIndex hitBehind)
        world.state (some 1)).1.map Hit.textId = [] := by
  have serves : ∀ base, narrowGateway.Serves (Backend.printedIndex hitBehind) base hitBehind :=
    narrowGateway_serves (by decide +kernel) (by decide +kernel) (by decide +kernel)
  have harmless : ∀ element ∈ hitBehind, element.Harmless := by
    simp [hitBehind, hitElement_harmless, null_harmless]
  have summary :
      ((World.initial 0 2000).run? narrowSetup answeredSearch).map
          (fun world =>
            ((exported narrowSetup narrowGateway (Backend.printedIndex hitBehind)
                world.state none).1.map Hit.textId,
              (exported narrowSetup narrowGateway (Backend.printedIndex hitBehind)
                world.state (some 1)).1.map Hit.textId)) =
        some ([7, 7], []) := by
    decide +kernel
  obtain ⟨world, runs, equal⟩ := Option.map_eq_some_iff.1 summary
  simp only [Prod.mk.injEq] at equal
  obtain ⟨twice, lost⟩ := equal
  exact ⟨world, runs, serves, harmless, rfl, twice, lost⟩

end Session
end Concordance
