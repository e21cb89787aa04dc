/-!
# Journal records

What happens in a search is noted as records with a level. A monad that can keep
records is a journal.
-/

namespace Concordance

/-- A note with its level. -/
structure Record where
  level : Int
  message : String
  deriving DecidableEq, Repr

namespace Record

/-- The level of details. -/
def debugLevel : Int := 10

/-- The level of progress. -/
def infoLevel : Int := 20

/-- The level of oddities. -/
def warningLevel : Int := 30

/-- The level of failures. -/
def errorLevel : Int := 40

/-- The level of disasters. -/
def criticalLevel : Int := 50

/-- A note of a detail. -/
def debug (message : String) : Record := ⟨debugLevel, message⟩

/-- A note of progress. -/
def info (message : String) : Record := ⟨infoLevel, message⟩

/-- A note of an oddity. -/
def warning (message : String) : Record := ⟨warningLevel, message⟩

/-- A note of a failure. -/
def error (message : String) : Record := ⟨errorLevel, message⟩

end Record

/-- Monads that keep records. -/
class MonadJournal (m : Type -> Type) where
  record : Record -> m Unit

export MonadJournal (record)

/-- Keep several records, in order. -/
def recordAll {m : Type -> Type} [Monad m] [MonadJournal m] : List Record -> m Unit
  | [] => pure ()
  | note :: notes => do
      record note
      recordAll notes

/-- Failures that have a wording. -/
class Worded (ε : Type) where
  message : ε -> String

end Concordance
