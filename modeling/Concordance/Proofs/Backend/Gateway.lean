import Concordance.Json.Printer
import Concordance.Proofs.Backend.Endpoint
import Concordance.Proofs.Hit.Reading

/-!
# An index behind a gateway

An index is a list of elements, good hits and others. It is asked for a window of ranks, and
answers by the elements at these ranks with the number of all its elements. A gateway reads
the answer as a batch: elements that are no hits are left out of it, but they still count
among the ranks and in the number of all hits.
-/

namespace Concordance
namespace Backend

namespace Reply

theorem payload_of_read?
    {reply : Reply}
    {payload : Entries Value}
    (good : reply.isGood = true)
    (reads : Json.read? reply.text = some (.obj payload)) :
    reply.payload.1 = .ok payload :=
  (reply.payload_eq_ok_iff payload).2 ⟨reply.isGood_iff.1 good, reads⟩

end Reply

namespace Gateway

/-- An index that answers a query: every window of ranks inside the window of the gateway is
answered by the elements at these ranks and the number of all elements. -/
def Serves
    (gateway : Gateway)
    (send : Post -> Except TransportError Reply)
    (base : Query)
    (index : List Value) :
    Prop :=
  ∀ offset size : Nat, 0 < size -> ((offset + size : Nat) : Int) ≤ gateway.window ->
    ∃ reply payload around took,
      send (gateway.endpoint.post ({ base with offset, size } : Query).bodyEntries none) =
        .ok reply ∧
      reply.payload.1 = .ok payload ∧
      (Value.field payload "took").looseCount = .ok took ∧
      Batch.hitList? payload = some (around, (index.drop offset).take size) ∧
      Batch.readTotal (Value.field around "total") = .ok (index.length : Int)

/-- A gateway whose requests are answered at once, and whose notes nobody reads. -/
def executeAlone
    (gateway : Gateway)
    (send : Post -> Except TransportError Reply)
    (query : Query) :
    Session.Alone GatewayError (Except GatewayError Batch) :=
  gateway.execute (fun post => pure (send post)) query

/-- What a gateway answers to a query that is asked at once. -/
def answer
    (gateway : Gateway)
    (send : Post -> Except TransportError Reply)
    (query : Query) :
    Except GatewayError Batch :=
  if gateway.window ≤ query.offset then .error (.beyondWindow gateway.window query.offset)
  else
    match send (gateway.endpoint.post query.bodyEntries none) with
    | .error cause => .error (.endpoint (.ofTransport cause))
    | .ok reply =>
        match reply.payload.1 with
        | .error cause => .error (.endpoint cause)
        | .ok payload => (readBatch query payload).1

/-- The batch that a gateway answers by; a gateway that fails brings no hit. -/
def brought
    (gateway : Gateway)
    (send : Post -> Except TransportError Reply)
    (query : Query) :
    Batch :=
  match gateway.answer send query with
  | .ok batch => batch
  | .error _ => { hits := [], total := 0 }

/-- Asking a gateway leaves the session alone. -/
theorem executeAlone_eq_pure
    (gateway : Gateway)
    (send : Post -> Except TransportError Reply)
    (query : Query) :
    gateway.executeAlone send query = pure (gateway.answer send query) := by
  funext state
  change (gateway.executeAlone send query).run state = pure (gateway.answer send query, state)
  unfold executeAlone execute Endpoint.search answer
  by_cases refused : gateway.window ≤ query.offset
  · simp [refused]
  · cases answers : send (gateway.endpoint.post query.bodyEntries none) with
    | error cause => simp [refused, answers]
    | ok reply =>
        cases isObject : reply.payload.1 with
        | error cause => simp [refused, answers, isObject]
        | ok payload => simp [refused, answers, isObject]

/-- An index that answers every request for a batch: by the elements at the ranks of the batch
and the number of all elements, also where the batch reaches beyond the window of the
gateway. -/
def ServesBatches
    (gateway : Gateway)
    (send : Post -> Except TransportError Reply)
    (base : Query)
    (size : Nat)
    (index : List Value) :
    Prop :=
  ∀ offset : Nat,
    ∃ reply payload around took,
      send (gateway.endpoint.post ({ base with offset, size } : Query).bodyEntries none) =
        .ok reply ∧
      reply.payload.1 = .ok payload ∧
      (Value.field payload "took").looseCount = .ok took ∧
      Batch.hitList? payload = some (around, (index.drop offset).take size) ∧
      Batch.readTotal (Value.field around "total") = .ok (index.length : Int)

/-- A batch that can be read is the answer to the query. -/
theorem readBatch_of_read
    {payload : Entries Value}
    {batch : Batch}
    (reads : (Batch.read payload).1 = .ok batch)
    (query : Query) :
    (readBatch query payload).1 = .ok batch := by
  unfold readBatch
  generalize Batch.read payload = outcome at reads ⊢
  obtain ⟨outcome, notes⟩ := outcome
  subst reads
  rfl

/-- A gateway answers by the hits among the elements at the ranks that are asked for, and the number
of all elements. -/
theorem answer_eq_of_listed
    {gateway : Gateway}
    {send : Post -> Except TransportError Reply}
    {base : Query}
    {index : List Value}
    {offset size : Nat}
    {reply : Reply}
    {payload around : Entries Value}
    {took : Int}
    (harmless : ∀ element ∈ index, element.Harmless)
    (inWindow : (offset : Int) < gateway.window)
    (answers :
      send (gateway.endpoint.post ({ base with offset, size } : Query).bodyEntries none) =
        .ok reply)
    (isObject : reply.payload.1 = .ok payload)
    (tookReads : (Value.field payload "took").looseCount = .ok took)
    (listed : Batch.hitList? payload = some (around, (index.drop offset).take size))
    (totalReads : Batch.readTotal (Value.field around "total") = .ok (index.length : Int)) :
    gateway.answer send { base with offset, size } =
      .ok
        { hits := ((index.drop offset).take size).filterMap Value.hit?
          total := index.length
          took } := by
  have harmlessSlice : ∀ element ∈ (index.drop offset).take size, element.Harmless :=
    fun element member => harmless element (List.mem_of_mem_drop (List.mem_of_mem_take member))
  have batch_reads := Batch.read_of_harmless tookReads listed totalReads harmlessSlice
  have notRefused : ¬gateway.window ≤ (offset : Int) := Int.not_le.2 inWindow
  unfold answer
  simp only [notRefused, if_false, answers, isObject]
  exact readBatch_of_read batch_reads _

/-- The batch for a window of ranks holds the hits among the elements at these ranks, and the
number of all elements. -/
theorem Serves.executeAlone_run
    {gateway : Gateway}
    {send : Post -> Except TransportError Reply}
    {base : Query}
    {index : List Value}
    (serves : gateway.Serves send base index)
    (harmless : ∀ element ∈ index, element.Harmless)
    {offset size : Nat}
    (positive : 0 < size)
    (inWindow : ((offset + size : Nat) : Int) ≤ gateway.window)
    (state : Session.State GatewayError) :
    ∃ took,
      (gateway.executeAlone send { base with offset, size }).run state =
        pure
          (.ok
            { hits := ((index.drop offset).take size).filterMap Value.hit?
              total := index.length
              took },
            state) := by
  obtain ⟨reply, payload, around, took, answers, isObject, tookReads, listed, totalReads⟩ :=
    serves offset size positive inWindow
  refine ⟨took, ?_⟩
  have begins : (offset : Int) < gateway.window := by omega
  have answer_eq :=
    answer_eq_of_listed harmless begins answers isObject tookReads listed totalReads
  rw [executeAlone_eq_pure, answer_eq, StateT.run_pure]

/-- The batch from a rank below the window holds the hits among its elements, and the number of
all elements. -/
theorem ServesBatches.answer_eq
    {gateway : Gateway}
    {send : Post -> Except TransportError Reply}
    {base : Query}
    {size : Nat}
    {index : List Value}
    (serves : gateway.ServesBatches send base size index)
    (harmless : ∀ element ∈ index, element.Harmless)
    {offset : Nat}
    (inWindow : (offset : Int) < gateway.window) :
    ∃ took,
      gateway.answer send { base with offset, size } =
        .ok
          { hits := ((index.drop offset).take size).filterMap Value.hit?
            total := index.length
            took } := by
  obtain ⟨reply, payload, around, took, answers, isObject, tookReads, listed, totalReads⟩ :=
    serves offset
  exact ⟨took, answer_eq_of_listed harmless inWindow answers isObject tookReads listed totalReads⟩

end Gateway

/-- The body of an answer for a window of the ranks of an index. -/
def windowPayload (index : List Value) (offset size : Nat) : Entries Value :=
  [("took", .int 1),
    ("hits", .obj
      [("total", .int index.length), ("hits", .list ((index.drop offset).take size))])]

/-- An index that prints the elements it is asked for, for examples of exports. -/
def printedIndex (index : List Value) (post : Post) : Except TransportError Reply :=
  match Value.field post.body "from", Value.field post.body "size" with
  | .int offset, .int size =>
      .ok { text := Json.printLine (.obj (windowPayload index offset.toNat size.toNat)) }
  | _, _ => .error (.other "KeyError" "from")

/-- What an index prints for a window of ranks can be read back. -/
def ReadsBack (index : List Value) (offset size : Nat) : Prop :=
  Json.read? (Json.printLine (.obj (windowPayload index offset size))) =
    some (.obj (windowPayload index offset size))

instance (index : List Value) (offset size : Nat) : Decidable (ReadsBack index offset size) :=
  inferInstanceAs (Decidable (_ = _))

/-- An index that prints its elements serves a gateway, where what it prints can be read
back. -/
theorem printedIndex_serves
    {gateway : Gateway}
    {index : List Value}
    (reads : ∀ offset size : Nat, 0 < size ->
      ((offset + size : Nat) : Int) ≤ gateway.window -> ReadsBack index offset size)
    (base : Query) :
    gateway.Serves (printedIndex index) base index := by
  intro offset size positive inWindow
  have isObject :
      ({ text := Json.printLine (.obj (windowPayload index offset size)) } : Reply).payload.1 =
        .ok (windowPayload index offset size) :=
    Reply.payload_of_read? rfl (reads offset size positive inWindow)
  exact ⟨_, _, _, 1, rfl, isObject, rfl, rfl, rfl⟩

/-- Behind the end of an index its windows are empty alike. -/
theorem windowPayload_min
    (index : List Value)
    (offset size : Nat) :
    windowPayload index (min offset index.length) size = windowPayload index offset size := by
  rcases Nat.le_total offset index.length with inside | behind
  · rw [Nat.min_eq_left inside]
  · unfold windowPayload
    rw [Nat.min_eq_right behind, List.drop_length, List.drop_of_length_le behind]

/-- An index that prints its elements serves every batch, where what it prints up to its end can
be read back. -/
theorem printedIndex_servesBatches
    {index : List Value}
    {size : Nat}
    (reads : ∀ offset ≤ index.length, ReadsBack index offset size)
    (gateway : Gateway)
    (base : Query) :
    gateway.ServesBatches (printedIndex index) base size index := by
  intro offset
  have reads_here : ReadsBack index offset size := by
    unfold ReadsBack
    rw [← windowPayload_min]
    exact reads _ (Nat.min_le_right _ _)
  have isObject :
      ({ text := Json.printLine (.obj (windowPayload index offset size)) } : Reply).payload.1 =
        .ok (windowPayload index offset size) :=
    Reply.payload_of_read? rfl reads_here
  exact ⟨_, _, _, 1, rfl, isObject, rfl, rfl, rfl⟩

end Backend
end Concordance
