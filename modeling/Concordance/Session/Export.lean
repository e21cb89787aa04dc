import Concordance.Session.SearchCall

/-!
# Exporting all hits

An export walks through all hits of the active search, chunk by chunk and without
the cache. It ends at the number of hits that the backend reports, at an answer
without hits, or at the window, and asks for no chunk before it is needed. The
search is the one that was active when the export began.
-/

namespace Concordance
namespace Session

/-- Why an export ended early. -/
inductive ExportError (ε : Type)
  | noSearch
  | compile (cause : CompileError)
  | window (cause : WindowError)
  | backend (failure : ε)

/-- The wording of the end of an export. -/
def ExportError.message {ε : Type} [Worded ε] : ExportError ε -> String
  | .noSearch => "No active search to export"
  | .compile cause => cause.message
  | .window cause => cause.message
  | .backend failure => Worded.message failure

/-- An export: the query with any window, the greatest size of a chunk, and the
window of ranks. -/
structure Export where
  base : Query
  chunkSize : Int
  window : Nat

namespace Export

variable {ε : Type}

/-- The export of the active search. A chunk size of zero stands for none. -/
def ofState (setup : Setup) (state : State ε) (chunkSize : Option Int) :
    Except (ExportError ε) Export :=
  match state.search with
  | none => .error .noSearch
  | some search => do
      let base <- (batchQuery setup search 0).mapError .compile
      let given := chunkSize.getD 0
      pure
        { base
          chunkSize := if given = 0 then setup.paging.batchSize else given
          window := setup.paging.window }

/-- The query for the chunk that begins at a rank below the window. -/
def chunkQuery (walk : Export) (offset : Nat) : Except WindowError Query :=
  walk.base.withWindow offset (min walk.chunkSize (walk.window - offset : Nat))

/-- Collect the hits from a rank on, at most `limit` of them where a limit is
given. -/
def collectFrom {m : Type -> Type} [Monad m]
    (execute : Query -> m (Except ε Batch))
    (walk : Export)
    (limit : Option Nat)
    (offset : Nat) :
    m (List Hit × Option (ExportError ε)) :=
  if inWindow : offset < walk.window then
    match walk.chunkQuery offset with
    | .error cause => pure ([], some (.window cause))
    | .ok query => do
        match <- execute query with
        | .error failure => pure ([], some (.backend failure))
        | .ok batch =>
            if noHits : batch.hits = [] then pure ([], none)
            else
              let next := offset + batch.hits.length
              let isLast :=
                match limit with
                | none => false
                | some most => decide (most ≤ batch.hits.length)
              if isLast then pure (batch.hits.take (limit.getD 0), none)
              else if batch.total ≤ next then pure (batch.hits, none)
              else do
                let (hits, failure?) <-
                  collectFrom execute walk (limit.map (· - batch.hits.length)) next
                pure (batch.hits ++ hits, failure?)
  else pure ([], none)
termination_by walk.window - offset
decreasing_by
  have := List.length_pos_iff.2 noHits
  omega

end Export
end Session
end Concordance
