import Concordance.Backend.Endpoint
import Concordance.Hit.Reading
import Concordance.Query.Compile

/-!
# Asking an index

A gateway runs queries at an endpoint and reads the answers as batches of hits.
A query that begins beyond the window of the index is refused unasked.
-/

namespace Concordance
namespace Backend

/-- An endpoint with the window of its index. -/
structure Gateway where
  endpoint : Endpoint
  window : Int := 10000

/-- Why a query failed. -/
inductive GatewayError
  | beyondWindow (window offset : Int)
  | endpoint (cause : EndpointError)
  | response (cause : HitError)

/-- Separate the digits of a number in groups of three, from the last one on. -/
def groupDigits : Nat -> List Char -> List Char
  | 0, digits => digits
  | fuel + 1, digits =>
      if digits.length ≤ 3 then digits
      else
        groupDigits fuel (digits.take (digits.length - 3)) ++
          ',' :: digits.drop (digits.length - 3)

/-- A number with its digits in groups of three. -/
def grouped (number : Int) : String :=
  let digits := (Nat.repr number.natAbs).toList
  String.ofList ((if number < 0 then ['-'] else []) ++ groupDigits digits.length digits)

/-- The wording of a failure. -/
def GatewayError.message : GatewayError -> String
  | .beyondWindow window offset =>
      s!"Search results limited to first {grouped window} results (from={offset})"
  | .endpoint cause => cause.message
  | .response cause => cause.message

instance : Worded GatewayError := ⟨GatewayError.message⟩

namespace Gateway

/-- The note on an answer that was read. -/
def batchNote (query : Query) (batch : Batch) : Record :=
  .debug (s!"OpenSearch page parsed: from={query.offset} hits={batch.hits.length}" ++
    s!" total={batch.total} took={batch.took}ms")

/-- Read the answer to a query, with notes on it. -/
def readBatch (query : Query) (payload : Entries Value) :
    Except GatewayError Batch × List Record :=
  match Batch.read payload with
  | (.ok batch, notes) => (.ok batch, notes ++ [batchNote query batch])
  | (.error cause, notes) => (.error (.response cause), notes)

/-- Run a query. -/
def execute {m : Type -> Type} [Monad m] [MonadJournal m]
    (gateway : Gateway)
    (send : Post -> m (Except TransportError Reply))
    (query : Query) :
    m (Except GatewayError Batch) := do
  if gateway.window ≤ query.offset then
    pure (.error (.beyondWindow gateway.window query.offset))
  else
    match <- gateway.endpoint.search send query.bodyEntries none with
    | .error cause => pure (.error (.endpoint cause))
    | .ok payload =>
        let (batch, notes) := readBatch query payload
        recordAll notes
        pure batch

end Gateway
end Backend
end Concordance
