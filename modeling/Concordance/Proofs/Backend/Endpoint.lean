import Concordance.Backend.Gateway
import Concordance.Proofs.Session.Sequential
import Concordance.Proofs.Value.Equality

/-!
# Which answers count

A search posts once and takes what comes of it: a JSON object where the status tells of no error,
and otherwise a failure with the status of the answer, where there was one. The main statement
compares this with the promise that only the objects of successes are let through, which are the
statuses from 200 to 299: it is kept exactly where an object comes with a success or an error.
-/

namespace Concordance
namespace Backend

/-- Whether a failure is one of asking the endpoint, and not of something else on the way. -/
def EndpointError.IsOfEndpoint : EndpointError -> Prop
  | .other .. => False
  | _ => True

namespace Reply

/-- Whether the status is that of a success. -/
def IsSuccess (reply : Reply) : Prop :=
  200 ≤ reply.status ∧ reply.status < 300

/-- Whether the status is that of an error. -/
def IsError (reply : Reply) : Prop :=
  400 ≤ reply.status ∧ reply.status < 600

/-- An answer counts unless its status is that of an error. -/
theorem isGood_iff (reply : Reply) : reply.isGood = true ↔ ¬reply.IsError := by
  simp only [isGood, IsError, Bool.not_eq_true', Bool.and_eq_false_iff, decide_eq_false_iff_not]
  omega

/-- An answer is taken exactly where it is good and its body is a JSON object. -/
theorem payload_eq_ok_iff (reply : Reply) (payload : Entries Value) :
    reply.payload.1 = .ok payload ↔
      ¬reply.IsError ∧ Json.read? reply.text = some (.obj payload) := by
  rw [← isGood_iff]
  unfold Reply.payload
  cases good : reply.isGood with
  | false => simp
  | true =>
      cases reads : Json.read? reply.text with
      | none => simp
      | some value => cases value <;> simp

/-- An answer that is not taken makes a failure with its status. -/
theorem of_payload_eq_error
    {reply : Reply}
    {cause : EndpointError}
    (fails : reply.payload.1 = .error cause) :
    cause.IsOfEndpoint ∧ cause.status? = some reply.status := by
  unfold Reply.payload at fails
  split at fails
  next =>
    cases fails
    exact ⟨trivial, rfl⟩
  next =>
    split at fails
    next =>
      cases fails
      exact ⟨trivial, rfl⟩
    next => cases fails
    next =>
      cases fails
      exact ⟨trivial, rfl⟩

end Reply

/-- What a search makes of what comes of its post, with notes on it. -/
def taken : Except TransportError Reply -> Except EndpointError (Entries Value) × List Record
  | .error cause => (.error (.ofTransport cause), [])
  | .ok reply => reply.payload

@[simp] theorem taken_ok (reply : Reply) : taken (.ok reply) = reply.payload := rfl

/-- A search is a note, one post, and what is made of what comes of it. -/
theorem Endpoint.search_eq
    {m : Type -> Type} [Monad m] [LawfulMonad m] [MonadJournal m]
    (endpoint : Endpoint)
    (send : Post -> m (Except TransportError Reply))
    (body : Entries Value)
    (timeout : Option Seconds) :
    endpoint.search send body timeout = (do
      record (endpoint.requestNote body)
      let outcome <- send (endpoint.post body timeout)
      recordAll (taken outcome).2
      pure (taken outcome).1) := by
  unfold Endpoint.search
  congr 1
  funext _
  congr 1
  funext outcome
  cases outcome with
  | error cause => simp [taken, recordAll]
  | ok reply => rfl

/-- The promise that only the JSON objects of successes are let through, and that every failure is
one of the endpoint with the status of the answer, or without a status where no answer came. -/
structure LetsThroughSuccesses
    (outcome : Except String Reply)
    (result : Except EndpointError (Entries Value)) : Prop where
  payload_iff : ∀ payload, result = .ok payload ↔
    ∃ reply, outcome = .ok reply ∧ reply.IsSuccess ∧
      Json.read? reply.text = some (.obj payload)
  isOfEndpoint : ∀ cause, result = .error cause -> cause.IsOfEndpoint
  status?_eq : ∀ cause, result = .error cause -> cause.status? = outcome.toOption.map Reply.status

/-- A failed post keeps the promise. -/
theorem letsThroughSuccesses_of_unreachable (reason : String) :
    LetsThroughSuccesses (.error reason) (taken (.error (.unreachable reason))).1 where
  payload_iff payload := by simp [taken]
  isOfEndpoint cause fails := by
    cases fails
    trivial
  status?_eq cause fails := by
    cases fails
    rfl

/-- An answer keeps the promise exactly where an object comes with a success or an error. -/
theorem letsThroughSuccesses_payload_iff (reply : Reply) :
    LetsThroughSuccesses (.ok reply) reply.payload.1 ↔
      ∀ payload,
        Json.read? reply.text = some (.obj payload) -> reply.IsSuccess ∨ reply.IsError := by
  constructor
  · intro promise payload reads
    by_cases isError : reply.IsError
    · exact .inr isError
    · obtain ⟨_, same, success, _⟩ :=
        (promise.payload_iff payload).1 ((reply.payload_eq_ok_iff payload).2 ⟨isError, reads⟩)
      cases same
      exact .inl success
  · intro known
    have notBoth : reply.IsSuccess -> ¬reply.IsError := fun success isError =>
      absurd isError.1 (by have := success.2; omega)
    exact
      { payload_iff := by
          intro payload
          rw [reply.payload_eq_ok_iff]
          constructor
          · rintro ⟨noError, reads⟩
            exact ⟨reply, rfl, (known payload reads).resolve_right noError, reads⟩
          · rintro ⟨_, same, success, reads⟩
            cases same
            exact ⟨notBoth success, reads⟩
        isOfEndpoint := fun cause fails => (Reply.of_payload_eq_error fails).1
        status?_eq := fun cause fails => (Reply.of_payload_eq_error fails).2 }

/-- A search posts once, and lets through the objects of successes only, exactly where no object
comes with a status that is neither a success nor an error. -/
theorem only_successes_are_let_through_iff
    {m : Type -> Type} [Monad m] [LawfulMonad m] [MonadJournal m]
    (endpoint : Endpoint)
    (send : Post -> m (Except TransportError Reply))
    (body : Entries Value)
    (timeout : Option Seconds) :
    endpoint.search send body timeout = (do
      record (endpoint.requestNote body)
      let outcome <- send (endpoint.post body timeout)
      recordAll (taken outcome).2
      pure (taken outcome).1) ∧
    ∀ outcome : Except String Reply,
      LetsThroughSuccesses outcome (taken (outcome.mapError .unreachable)).1 ↔
        ∀ reply payload,
          outcome = .ok reply -> Json.read? reply.text = some (.obj payload) ->
            reply.IsSuccess ∨ reply.IsError := by
  refine ⟨endpoint.search_eq send body timeout, ?_⟩
  intro outcome
  cases outcome with
  | error reason =>
      constructor
      · intro _ reply payload same
        cases same
      · exact fun _ => letsThroughSuccesses_of_unreachable reason
  | ok reply =>
      refine (letsThroughSuccesses_payload_iff reply).trans ⟨?_, ?_⟩
      · rintro known _ payload same reads
        cases same
        exact known payload reads
      · intro known payload
        exact known reply payload rfl

/-- An answer with a status that brings an object. -/
def objectReply (status : Int) (reason : String) : Reply :=
  { status, reason, text := "\x7b\"took\": 3\x7d" }

/-- The object of such an answer can be read, whatever the status. -/
theorem read?_objectReply (status : Int) (reason : String) :
    Json.read? (objectReply status reason).text = some (.obj [("took", .int 3)]) := by
  change Json.read? "\x7b\"took\": 3\x7d" = some (.obj [("took", .int 3)])
  decide +kernel

/-- An endpoint that asks nobody. -/
def localEndpoint : Endpoint :=
  { baseUrl := "http://localhost:9200", index := "pages" }

/-- A search whose post is answered by an object with a success lets the object through. -/
theorem object_of_success_is_let_through :
    LawfulMonad (Session.Alone GatewayError) ∧
    ∀ state : Session.State GatewayError,
      (localEndpoint.search (fun _ => pure (.ok (objectReply 201 "Created"))) [] none :
          Session.Alone GatewayError _).run state =
        pure (.ok [("took", .int 3)], state) := by
  refine ⟨inferInstance, ?_⟩
  intro state
  obtain ⟨search_eq, promise_iff⟩ :=
    only_successes_are_let_through_iff (m := Session.Alone GatewayError)
      localEndpoint (fun _ => pure (.ok (objectReply 201 "Created"))) [] none
  have success : (objectReply 201 "Created").IsSuccess := by
    simp [objectReply, Reply.IsSuccess]
  have promise := (promise_iff (.ok (objectReply 201 "Created"))).2 (by
    intro reply payload same _
    cases same
    exact .inl success)
  have through : (taken (.ok (objectReply 201 "Created"))).1 = .ok [("took", .int 3)] :=
    (promise.payload_iff _).2 ⟨_, rfl, success, read?_objectReply 201 "Created"⟩
  rw [search_eq]
  simp only [record_eq_pure, recordAll_eq_pure, pure_bind, through, StateT.run_pure]

/-- A search whose post is answered by an object with a redirection lets it through as well. -/
theorem object_of_redirection_is_let_through :
    (∀ state : Session.State GatewayError,
      (localEndpoint.search (fun _ => pure (.ok (objectReply 300 "Multiple Choices"))) [] none :
          Session.Alone GatewayError _).run state =
        pure (.ok [("took", .int 3)], state)) ∧
    ¬LetsThroughSuccesses (.ok (objectReply 300 "Multiple Choices")) (.ok [("took", .int 3)]) := by
  have noError : ¬(objectReply 300 "Multiple Choices").IsError := by
    simp [objectReply, Reply.IsError]
  have through : (taken (.ok (objectReply 300 "Multiple Choices"))).1 = .ok [("took", .int 3)] := by
    rw [taken_ok, Reply.payload_eq_ok_iff]
    exact ⟨noError, read?_objectReply 300 "Multiple Choices"⟩
  constructor
  · intro state
    rw [Endpoint.search_eq]
    simp only [record_eq_pure, recordAll_eq_pure, pure_bind, through, StateT.run_pure]
  · intro promise
    obtain ⟨_, same, success, _⟩ := (promise.payload_iff [("took", .int 3)]).1 rfl
    cases same
    exact absurd success.2 (by simp [objectReply])

end Backend
end Concordance
