import Concordance.Proofs.Session.Sequential

/-!
# What a session asks

The procedures of a session run in any monad, so they can be run beside anything that answers their
queries, with every query written down. A query is written down in the form in which it is asked: as
the query of a search, or as the post that brings it to an endpoint. What answers may answer in any
way, it may fail, and it may do anything to the session before it answers, as other calls on the
session would.

A statement about a procedure says what it yields: its result, the queries that it has added, and
the state that it leaves. Such statements are put together along the procedure, one step after
another.
-/

namespace Concordance
namespace Session

variable {ρ ε : Type}

/-- Procedures of a session whose queries are written down, in the form in which they are asked. -/
abbrev Asking (ρ ε : Type) := StateT (List ρ) (Alone ε)

instance : MonadJournal (Asking ρ ε) where
  record _ := pure ()

instance : SilentJournal (Asking ρ ε) := ⟨fun _ => rfl⟩

/-- What answers queries, given the queries before. It may change the session meanwhile. -/
abbrev Responder (ρ ε α : Type) := List ρ -> ρ -> Alone ε α

/-- A responder in the place of the backend. -/
abbrev Source (ε : Type) := Responder Query ε (Except ε Batch)

namespace Responder

variable {α : Type}

/-- Write a query down and have it answered. -/
def ask (responder : Responder ρ ε α) (query : ρ) : Asking ρ ε α := do
  let queries : List ρ <- getThe (List ρ)
  set (queries ++ [query])
  responder queries query

/-- The answers that a responder may give to a query, in some state and after some queries. -/
def Gives (responder : Responder ρ ε α) (query : ρ) (answer : α) : Prop :=
  ∃ queries state, ((responder queries query).run state).run.1 = answer

end Responder

/-- What came of a procedure: its result, the queries that it asked, and the state that it
left. -/
structure Course (ρ ε α : Type) where
  result : α
  queries : List ρ
  state : State ε

/-- Run a procedure from a state on. -/
def Asking.course {α : Type} (procedure : Asking ρ ε α) (state : State ε) : Course ρ ε α :=
  let ended := ((procedure.run []).run state).run
  { result := ended.1.1
    queries := ended.1.2
    state := ended.2 }

/-- What a procedure yields from a state on: a result, the queries that it adds to those before,
and a state. -/
def Yields {α : Type}
    (state : State ε)
    (procedure : Asking ρ ε α)
    (post : α -> List ρ -> State ε -> Prop) : Prop :=
  ∀ queries, ∃ value asked last,
    (procedure.run queries).run state = pure ((value, queries ++ asked), last) ∧
      post value asked last

namespace Yields

variable {α β : Type} {state : State ε} {post : α -> List ρ -> State ε -> Prop}

/-- What a procedure yields holds of its course. -/
theorem course
    {procedure : Asking ρ ε α}
    (yields : Yields state procedure post) :
    post (procedure.course state).result (procedure.course state).queries
      (procedure.course state).state := by
  obtain ⟨value, asked, last, run_eq, holds⟩ := yields []
  unfold Asking.course
  rw [run_eq]
  exact holds

theorem pure {value : α} (holds : post value [] state) :
    Yields state (Pure.pure value) post :=
  fun queries => ⟨value, [], state, by rw [List.append_nil]; rfl, holds⟩

/-- A second procedure adds its queries to those of the first. -/
theorem bind
    {first : Asking ρ ε β}
    {next : β -> Asking ρ ε α}
    (yields : Yields state first fun value asked middle =>
      Yields middle (next value) fun result more last => post result (asked ++ more) last) :
    Yields state (first >>= next) post := by
  intro queries
  obtain ⟨value, asked, middle, first_eq, nextYields⟩ := yields queries
  obtain ⟨result, more, last, next_eq, holds⟩ := nextYields (queries ++ asked)
  refine ⟨result, asked ++ more, last, ?_, holds⟩
  rw [StateT.run_bind, StateT.run_bind, first_eq, pure_bind, next_eq, List.append_assoc]

/-- A choice between two procedures yields what the chosen one yields. -/
theorem ite
    {condition : Prop}
    [Decidable condition]
    {first second : Asking ρ ε α}
    (firstYields : condition -> Yields state first post)
    (secondYields : ¬condition -> Yields state second post) :
    Yields state (if condition then first else second) post := by
  split
  next chosen => exact firstYields chosen
  next other => exact secondYields other

/-- What a procedure yields can be said in a weaker way. -/
theorem mono
    {procedure : Asking ρ ε α}
    {weaker : α -> List ρ -> State ε -> Prop}
    (yields : Yields state procedure post)
    (implies : ∀ value asked last, post value asked last -> weaker value asked last) :
    Yields state procedure weaker := by
  intro queries
  obtain ⟨value, asked, last, run_eq, holds⟩ := yields queries
  exact ⟨value, asked, last, run_eq, implies value asked last holds⟩

theorem get
    {post : State ε -> List ρ -> State ε -> Prop}
    (holds : post state [] state) :
    Yields state (getThe (State ε) : Asking ρ ε (State ε)) post :=
  fun queries => ⟨state, [], state, by rw [List.append_nil]; rfl, holds⟩

theorem set
    {next : State ε}
    {post : PUnit -> List ρ -> State ε -> Prop}
    (holds : post () [] next) :
    Yields state (MonadStateOf.set next : Asking ρ ε PUnit) post :=
  fun queries => ⟨(), [], next, by rw [List.append_nil]; rfl, holds⟩

theorem modify
    {change : State ε -> State ε}
    {post : PUnit -> List ρ -> State ε -> Prop}
    (holds : post () [] (change state)) :
    Yields state (modifyThe (State ε) change : Asking ρ ε PUnit) post :=
  fun queries => ⟨(), [], change state, by rw [List.append_nil]; rfl, holds⟩

theorem record
    {note : Record}
    {post : Unit -> List ρ -> State ε -> Prop}
    (holds : post () [] state) :
    Yields state (MonadJournal.record note : Asking ρ ε Unit) post :=
  .pure holds

/-- A section that is kept leaves its state. -/
theorem commit
    {step : State ε × List Record}
    {post : Unit -> List ρ -> State ε -> Prop}
    (holds : post () [] step.1) :
    Yields state (Session.commit step : Asking ρ ε Unit) post := by
  rw [commit_eq_set]
  exact .set holds

/-- A query that is asked is written down, and has one of the answers of the responder. -/
theorem ask
    {responder : Responder ρ ε α}
    {query : ρ}
    {post : α -> List ρ -> State ε -> Prop}
    (holds : ∀ answer next, responder.Gives query answer -> post answer [query] next) :
    Yields state (responder.ask query) post := by
  intro queries
  refine ⟨_, [query], _, rfl, ?_⟩
  exact holds _ _ ⟨queries, state, rfl⟩

end Yields

end Session
end Concordance
