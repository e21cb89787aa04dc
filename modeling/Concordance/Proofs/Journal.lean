import Concordance.Session

/-!
# Journals that nobody reads

A session can be run with a journal that keeps nothing. Its procedures then do what they do to the
session and no more: the notes drop out, and a section that is kept sets the state.
-/

namespace Concordance

/-- Monads whose journal keeps nothing. -/
class SilentJournal (m : Type -> Type) [Monad m] [MonadJournal m] : Prop where
  record_eq : ∀ note : Record, (record note : m Unit) = pure ()

variable {m : Type -> Type} [Monad m] [MonadJournal m] [SilentJournal m]

@[simp] theorem record_eq_pure (note : Record) : (record note : m Unit) = pure () :=
  SilentJournal.record_eq note

variable [LawfulMonad m]

@[simp] theorem recordAll_eq_pure (notes : List Record) :
    (recordAll notes : m Unit) = pure () := by
  induction notes with
  | nil => rfl
  | cons note notes inductionHypothesis =>
      rw [recordAll, record_eq_pure, pure_bind, inductionHypothesis]

@[simp] theorem Session.commit_eq_set
    {ε : Type}
    [MonadStateOf (State ε) m]
    (step : State ε × List Record) :
    (commit step : m Unit) = set step.1 := by
  rw [commit, recordAll_eq_pure]
  exact bind_pure_unit

end Concordance
