import Concordance.Backend.Gateway
import Concordance.Proofs.Session.Chunks
import Concordance.Proofs.Session.Generations
import Concordance.Proofs.Session.Queries

/-!
# Exports go forward

An export goes on by the hits that it has got, so how it goes on is up to the source. Whatever the
source answers, each chunk begins behind the one before it and ends inside the window, so there
are no more chunks than ranks in the window. An export from a source that serves a list brings the
list up to the window, in however short pieces the source answers.
-/

namespace Concordance
namespace Session

variable {ε : Type}

/-- An answer with the first of the hits that are asked for, and the number of all hits. It may
be short, but there is a hit in it where the list has one. -/
structure ServesPart (hits : List Hit) (offset size : Nat) (batch : Batch) : Prop where
  total_eq : batch.total = hits.length
  isPrefix : batch.hits <+: (hits.drop offset).take size
  nonempty : offset < hits.length -> batch.hits ≠ []

/-- A source that serves a list to the query of a search, whatever window of it is asked for. It
does not fail, and answers with a part of the list. -/
def Source.ServesList (source : Source ε) (base : Query) (hits : List Hit) : Prop :=
  ∀ offset size : Nat, 0 < size ->
    (∀ failure, ¬source.Gives { base with offset, size } (.error failure)) ∧
      ∀ batch, source.Gives { base with offset, size } (.ok batch) ->
        ServesPart hits offset size batch

/-- As many hits as a limit says, and all where there is none. -/
def takeUpTo (limit : Option Nat) (hits : List Hit) : List Hit :=
  limit.elim hits hits.take

@[simp] theorem takeUpTo_nil (limit : Option Nat) : takeUpTo limit [] = [] := by
  cases limit with
  | none => rfl
  | some most => exact List.take_nil

/-- A limit that the first hits do not reach is taken on to the others. -/
theorem takeUpTo_append
    {limit : Option Nat}
    {first : List Hit}
    (notReached : ∀ most, limit = some most -> first.length < most)
    (rest : List Hit) :
    takeUpTo limit (first ++ rest) =
      first ++ takeUpTo (limit.map (· - first.length)) rest := by
  cases limit with
  | none => rfl
  | some most =>
      have fits := Nat.le_of_lt (notReached most rfl)
      simp only [takeUpTo, Option.map_some, Option.elim_some, List.take_append,
        List.take_of_length_le fits]

/-- Queries of a search that go forward from the first rank on, in chunks that are not empty and
end inside a window. -/
structure GoForward (base : Query) (chunkSize : Int) (window : Nat) (queries : List Query) :
    Prop where
  begins : ∀ query ∈ queries.head?, query.offset = 0
  ascending : queries.Pairwise fun earlier later => earlier.offset < later.offset
  length_le : queries.length ≤ window
  sameSearch : ∀ query ∈ queries,
    query = { base with offset := query.offset, size := query.size }
  inside : ∀ query ∈ queries,
    1 ≤ query.size ∧ query.size ≤ chunkSize ∧ query.offset + query.size ≤ window

theorem GoForward.nil (base : Query) (chunkSize : Int) (window : Nat) :
    GoForward base chunkSize window [] :=
  ⟨nofun, .nil, Nat.zero_le window, nofun, nofun⟩

namespace Export

/-- The query for the chunk that begins at a rank, cut to the window. -/
def chunkAt (walk : Export) (size offset : Nat) : Query :=
  { walk.base with offset, size := (min size (walk.window - offset) : Nat) }

/-- Queries for chunks that begin inside the window, the first one at a given rank and each one
behind the one before it. -/
inductive AsksChunks (walk : Export) (size : Nat) : Nat -> List Query -> Prop
  | nil {offset : Nat} : AsksChunks walk size offset []
  | cons
      {offset next : Nat}
      {queries : List Query}
      (inWindow : offset < walk.window)
      (advances : offset < next)
      (ahead : AsksChunks walk size next queries) :
      AsksChunks walk size offset (walk.chunkAt size offset :: queries)

namespace AsksChunks

variable {walk : Export} {size offset : Nat} {queries : List Query}

/-- A chunk that nothing follows. -/
theorem last (inWindow : offset < walk.window) :
    walk.AsksChunks size offset [walk.chunkAt size offset] :=
  .cons inWindow (Nat.lt_succ_self offset) .nil

/-- The queries ask for chunks from the given rank on. -/
theorem exists_of_mem
    (asks : walk.AsksChunks size offset queries)
    {query : Query}
    (member : query ∈ queries) :
    ∃ start, offset ≤ start ∧ start < walk.window ∧ query = walk.chunkAt size start := by
  induction asks with
  | nil => cases member
  | @cons offset next queries inWindow advances ahead inductionHypothesis =>
      rcases List.mem_cons.1 member with rfl | later
      · exact ⟨offset, Nat.le_refl offset, inWindow, rfl⟩
      · obtain ⟨start, reached, inside, query_eq⟩ := inductionHypothesis later
        exact ⟨start, by omega, inside, query_eq⟩

/-- Each chunk begins behind the one before it. -/
theorem ascending (asks : walk.AsksChunks size offset queries) :
    queries.Pairwise fun earlier later => earlier.offset < later.offset := by
  induction asks with
  | nil => exact .nil
  | @cons offset next queries inWindow advances ahead inductionHypothesis =>
      refine .cons (fun later member => ?_) inductionHypothesis
      obtain ⟨start, reached, _, rfl⟩ := ahead.exists_of_mem member
      exact Int.ofNat_lt.2 (by omega)

/-- There are no more chunks than ranks up to the window. -/
theorem length_le (asks : walk.AsksChunks size offset queries) :
    queries.length ≤ walk.window - offset := by
  induction asks with
  | nil => exact Nat.zero_le _
  | cons inWindow advances ahead inductionHypothesis =>
      rw [List.length_cons]
      omega

/-- Chunks from the first rank on go forward. -/
theorem goForward
    (asks : walk.AsksChunks size 0 queries)
    (positive : 0 < size) :
    GoForward walk.base size walk.window queries where
  begins := by
    intro query first
    cases asks with
    | nil => cases first
    | cons inWindow advances ahead =>
        cases first
        rfl
  ascending := asks.ascending
  length_le := asks.length_le
  sameSearch := by
    intro query member
    obtain ⟨start, _, _, rfl⟩ := asks.exists_of_mem member
    rfl
  inside := by
    intro query member
    obtain ⟨start, _, inWindow, rfl⟩ := asks.exists_of_mem member
    simp only [chunkAt]
    omega

end AsksChunks
end Export

namespace ServesPart

variable {hits : List Hit} {batch : Batch} {window offset size : Nat}

/-- An answer without hits comes from the end of the list. -/
theorem ahead_eq_nil
    (part : ServesPart hits offset size batch)
    (noHits : batch.hits = []) :
    (hits.take window).drop offset = [] := by
  apply Export.ahead_eq_nil
  refine .inr (Nat.le_of_not_lt fun inside => ?_)
  exact part.nonempty inside noHits

/-- What is ahead up to the window begins with the hits of the answer. -/
theorem ahead_eq
    (part : ServesPart hits offset (min size (window - offset)) batch) :
    (hits.take window).drop offset =
      batch.hits ++ (hits.take window).drop (offset + batch.hits.length) := by
  have begins : batch.hits <+: (hits.take window).drop offset := by
    rw [List.drop_take]
    exact part.isPrefix.trans (List.take_prefix_take_left (Nat.min_le_right _ _))
  obtain ⟨rest, rest_eq⟩ := begins
  rw [← List.drop_drop, ← rest_eq, List.drop_left]

/-- An answer that reaches the number of all hits brings all that is ahead. -/
theorem ahead_eq_of_reported
    (part : ServesPart hits offset (min size (window - offset)) batch)
    (reported : batch.total ≤ (offset + batch.hits.length : Nat)) :
    (hits.take window).drop offset = batch.hits := by
  rw [part.total_eq] at reported
  rw [part.ahead_eq, Export.ahead_eq_nil (.inr (Int.ofNat_le.1 reported)), List.append_nil]

end ServesPart

/-- What an export from a rank on comes to. It has asked for chunks from there on. From a source
that serves a list it has brought what the list has between the rank and the window. -/
structure Export.Collects
    (walk : Export)
    (source : Source ε)
    (size : Nat)
    (limit : Option Nat)
    (offset : Nat)
    (outcome : List Hit × Option (ExportError ε))
    (asked : List Query) : Prop where
  asks : walk.AsksChunks size offset asked
  brings : ∀ hits, source.ServesList walk.base hits ->
    outcome = (takeUpTo limit ((hits.take walk.window).drop offset), none)

namespace Export.Collects

variable {walk : Export} {source : Source ε} {size offset : Nat} {limit : Option Nat}

/-- At the end of the window nothing is asked or brought. -/
theorem ended (outside : walk.window ≤ offset) :
    walk.Collects source size limit offset ([], none) [] where
  asks := .nil
  brings := by
    intro hits _
    rw [ahead_eq_nil (.inl outside), takeUpTo_nil]

section Answered

variable (positive : 0 < size) (inWindow : offset < walk.window)

include positive inWindow

/-- A source that serves a list answers a chunk with a part of the list. -/
theorem servesPart
    {hits : List Hit}
    {batch : Batch}
    (serves : source.ServesList walk.base hits)
    (gives : source.Gives (walk.chunkAt size offset) (.ok batch)) :
    ServesPart hits offset (min size (walk.window - offset)) batch :=
  (serves offset _ (by omega)).2 batch gives

/-- A source that fails serves no list. -/
theorem failed
    {failure : ε}
    (gives : source.Gives (walk.chunkAt size offset) (.error failure))
    (outcome : List Hit × Option (ExportError ε)) :
    walk.Collects source size limit offset outcome [walk.chunkAt size offset] where
  asks := .last inWindow
  brings := by
    intro hits serves
    exact absurd gives ((serves offset _ (by omega)).1 failure)

variable {batch : Batch} (gives : source.Gives (walk.chunkAt size offset) (.ok batch))

include gives

/-- An answer without hits ends the export. -/
theorem noHits (none_eq : batch.hits = []) :
    walk.Collects source size limit offset ([], none) [walk.chunkAt size offset] where
  asks := .last inWindow
  brings := by
    intro hits serves
    rw [(servesPart positive inWindow serves gives).ahead_eq_nil none_eq, takeUpTo_nil]

/-- An answer that reaches the limit ends the export. -/
theorem limitReached {most : Nat} (enough : most ≤ batch.hits.length) :
    walk.Collects source size (some most) offset (batch.hits.take most, none)
      [walk.chunkAt size offset] where
  asks := .last inWindow
  brings := by
    intro hits serves
    rw [(servesPart positive inWindow serves gives).ahead_eq, takeUpTo, Option.elim_some,
      List.take_append_of_le_length enough]

variable (unreached : ∀ most, limit = some most -> batch.hits.length < most)

include unreached

/-- An answer that reaches the number of all hits ends the export. -/
theorem totalReached (reported : batch.total ≤ (offset + batch.hits.length : Nat)) :
    walk.Collects source size limit offset (batch.hits, none) [walk.chunkAt size offset] where
  asks := .last inWindow
  brings := by
    intro hits serves
    rw [(servesPart positive inWindow serves gives).ahead_eq_of_reported reported,
      ← List.append_nil batch.hits, takeUpTo_append unreached, takeUpTo_nil]

/-- After any other answer the export goes on behind its hits. -/
theorem goesOn
    {outcome : List Hit × Option (ExportError ε)}
    {asked : List Query}
    (someHits : batch.hits ≠ [])
    (later :
      walk.Collects source size (limit.map (· - batch.hits.length))
        (offset + batch.hits.length) outcome asked) :
    walk.Collects source size limit offset (batch.hits ++ outcome.1, outcome.2)
      (walk.chunkAt size offset :: asked) where
  asks := by
    have := List.length_pos_iff.2 someHits
    exact .cons inWindow (by omega) later.asks
  brings := by
    intro hits serves
    rw [later.brings hits serves, (servesPart positive inWindow serves gives).ahead_eq,
      takeUpTo_append unreached]

end Answered
end Export.Collects

/-- An export collects what is ahead, however the source answers. -/
theorem Export.collectFrom_yields
    {source : Source ε}
    {walk : Export}
    {size : Nat}
    (size_eq : walk.chunkSize = size)
    (positive : 0 < size)
    (limit : Option Nat)
    (offset : Nat)
    (state : State ε) :
    Yields state (walk.collectFrom source.ask limit offset) fun outcome asked _ =>
      walk.Collects source size limit offset outcome asked := by
  -- Each chunk leaves fewer ranks of the window ahead.
  induction remaining : walk.window - offset using Nat.strongRecOn
      generalizing limit offset state with
  | ind remaining inductionHypothesis =>
      rw [collectFrom]
      split
      next inWindow =>
        rw [chunkQuery_eq size_eq positive inWindow]
        refine .bind (.ask fun answer next gives => ?_)
        cases answer with
        | error failure => exact .pure (.failed positive inWindow gives _)
        | ok batch =>
            dsimp only
            split
            next none_eq => exact .pure (.noHits positive inWindow gives none_eq)
            next someHits =>
              have progress := List.length_pos_iff.2 someHits
              refine .ite (fun reached => ?_) fun notReached => ?_
              · cases limit with
                | none => cases reached
                | some most =>
                    have enough := of_decide_eq_true reached
                    exact .pure (.limitReached positive inWindow gives enough)
              · have unreached : ∀ most, limit = some most -> batch.hits.length < most := by
                  rintro most rfl
                  simpa using notReached
                refine .ite (fun reported => ?_) fun _ => ?_
                · exact .pure (.totalReached positive inWindow gives unreached reported)
                · refine .bind ((inductionHypothesis _ (by omega) _ _ _ rfl).mono ?_)
                  intro outcome asked last later
                  refine .pure ?_
                  rw [List.append_nil]
                  exact later.goesOn positive inWindow gives unreached someHits
      next outside => exact .pure (.ended (Nat.not_lt.1 outside))

/-- However a source answers, an export of the active search asks for chunks that go forward from
the first rank, at most one for each rank of the window. From a source that serves a list it
brings the list up to the window, or as much of that as is taken. -/
theorem export_goes_forward_and_is_exact [Worded ε]
    {setup : Setup}
    {world : World ε}
    {search : Search}
    {chunkSize : Option Int}
    (reachable : Reachable setup world)
    (active : world.state.search = some search)
    (positive : ∀ size, chunkSize = some size -> 1 ≤ size)
    (source : Source ε)
    (limit : Option Nat) :
    ∃ base, batchQuery setup search 0 = .ok base ∧
      GoForward base (chunkSize.getD setup.paging.batchSize) setup.paging.window
        (Asking.course (exportHits setup source.ask chunkSize limit) world.state).queries ∧
      ∀ hits, source.ServesList base hits ->
        (Asking.course (exportHits setup source.ask chunkSize limit) world.state).result =
          (takeUpTo limit (hits.take setup.paging.window), none) := by
  obtain ⟨base, compiles⟩ := reachable.search_compiles active
  obtain ⟨size, size_pos, size_eq⟩ := Export.exists_chunkSize setup positive
  have begins := Export.ofState_eq_ok active compiles chunkSize
  rw [size_eq] at begins
  rw [Export.chunkSize_eq_getD setup positive] at size_eq
  have yields :
      Yields world.state (exportHits setup source.ask chunkSize limit) fun outcome asked _ =>
        GoForward base size setup.paging.window asked ∧
          ∀ hits, source.ServesList base hits ->
            outcome = (takeUpTo limit (hits.take setup.paging.window), none) := by
    unfold exportHits
    refine .ite (fun nothing => ?_) fun _ => .bind (.get ?_)
    · subst nothing
      exact .pure ⟨.nil base size setup.paging.window, fun _ _ => rfl⟩
    · rw [begins]
      refine (Export.collectFrom_yields rfl size_pos limit 0 world.state).mono ?_
      intro outcome asked last collects
      exact ⟨collects.asks.goForward size_pos, collects.brings⟩
  rw [size_eq]
  exact ⟨base, compiles, yields.course⟩

/-- A source that serves a list in pieces of limited size, for examples of exports. -/
def shortAnswers (hits : List Hit) (most : Nat) : Source ε := fun _ query =>
  pure (.ok
    { hits := ((hits.drop query.offset.toNat).take query.size.toNat).take most
      total := hits.length })

/-- Short answers serve their list. -/
theorem shortAnswers_servesList
    (hits : List Hit)
    {most : Nat}
    (positive : 0 < most)
    (base : Query) :
    (shortAnswers hits most : Source ε).ServesList base hits := by
  intro offset size asksSome
  constructor
  · rintro failure ⟨queries, state, fails⟩
    cases fails
  · rintro batch ⟨queries, state, answers⟩
    cases answers
    refine ⟨rfl, List.take_prefix most _, fun inside noHits => ?_⟩
    have count := congrArg List.length noHits
    simp only [List.length_take, List.length_drop, List.length_nil, Int.toNat_natCast] at count
    omega

/-- Twelve hits, two more than a small session keeps. -/
def twelveHits : List Hit :=
  (hitsAt ["a", "b", "c", "d", "e", "f", "g", "h", "i", "j", "k", "l"]).hits

/-- An export of twelve hits in pieces of three, asked for in chunks of four. -/
def exportInPieces (state : State Backend.GatewayError) :
    Course Query Backend.GatewayError (List Hit × Option (ExportError Backend.GatewayError)) :=
  Asking.course (exportHits smallSetup (shortAnswers twelveHits 3).ask (some 4) none) state

/-- The export of twelve hits brings the first ten, and its last chunk is cut to the window. -/
theorem export_in_pieces_is_exact :
    ∃ world,
      (World.initial 0 2000).run? smallSetup
          [.start (.search (wordSearch "word") none 1), .resume 0 (.ok (hitsAt ["a"]))] =
        some world ∧
      (exportInPieces world.state).queries.map (fun query => (query.offset, query.size)) =
        [(0, 4), (3, 4), (6, 4), (9, 1)] ∧
      (exportInPieces world.state).queries.length ≤ 10 ∧
      (exportInPieces world.state).result = (twelveHits.take 10, none) := by
  have summary :
      ((World.initial 0 2000).run? smallSetup
          [.start (.search (wordSearch "word") none 1), .resume 0 (.ok (hitsAt ["a"]))]).map
          (fun world =>
            (world.state.search,
              (exportInPieces world.state).queries.map fun query => (query.offset, query.size))) =
        some (some (wordSearch "word"), [(0, 4), (3, 4), (6, 4), (9, 1)]) := by
    decide +kernel
  obtain ⟨world, runs, equal⟩ := Option.map_eq_some_iff.1 summary
  simp only [Prod.mk.injEq] at equal
  obtain ⟨active, windows⟩ := equal
  have positive : ∀ size : Int, some 4 = some size -> 1 ≤ size := by simp
  obtain ⟨base, _, forward, exact⟩ :=
    export_goes_forward_and_is_exact ((Reachable.initial 0 2000).run? runs) active positive
      (shortAnswers twelveHits 3) none
  refine ⟨world, runs, windows, forward.length_le, ?_⟩
  exact exact twelveHits (shortAnswers_servesList twelveHits (by decide) base)

end Session
end Concordance
