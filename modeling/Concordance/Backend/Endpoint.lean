import Concordance.Journal
import Concordance.Json.Reader
import Concordance.Value.Wording

/-!
# The endpoint of an index

Searches are posted to the endpoint of an index as JSON objects, and answered by
JSON objects. An answer counts unless its status tells of an error, from 400 to
599; its body has to be a JSON object.
-/

namespace Concordance
namespace Backend

/-- A length of time, as it was given. -/
inductive Seconds
  | whole (count : Int)
  | fraction (count : Binary64)
  deriving DecidableEq, Repr

/-- Whether a length of time is zero. -/
def Seconds.isZero : Seconds -> Bool
  | .whole count => count == 0
  | .fraction count => count.isZero

/-- A half minute. -/
def Seconds.halfMinute : Seconds :=
  .fraction (.finite false (15 * Nat.pow 2 49) (-48))

/-- Where and how an index is asked. -/
structure Endpoint where
  baseUrl : String
  index : String
  user : String := ""
  password : String := ""
  timeout : Seconds := .halfMinute
  verifiesTls : Bool := true
  deriving DecidableEq, Repr

/-- A request as it is sent. -/
structure Post where
  url : String
  body : Entries Value
  headers : Entries String
  timeout : Seconds

/-- An answer as it is received. -/
structure Reply where
  status : Int := 200
  reason : String := "OK"
  text : String := ""
  deriving DecidableEq, Repr

/-- Why there was no answer. -/
inductive TransportError
  | unreachable (reason : String)
  | other (kind message : String)
  deriving DecidableEq, Repr

/-- Why a request failed. -/
inductive EndpointError
  | unreachable (reason : String)
  | refused (status : Int) (reason : String)
  | notJson (status : Int)
  | notAnObject (status : Int)
  | other (kind message : String)
  deriving DecidableEq, Repr

namespace EndpointError

/-- The wording of a failure. -/
def message : EndpointError -> String
  | .unreachable reason => s!"OpenSearch request failed: {reason}"
  | .refused status reason => s!"OpenSearch error: {status} {reason}"
  | .notJson _ => "OpenSearch returned a non-JSON response"
  | .notAnObject _ => "OpenSearch response must be a JSON object"
  | .other _ message => message

/-- The status of the answer, where there was one. -/
def status? : EndpointError -> Option Int
  | .refused status _ => some status
  | .notJson status => some status
  | .notAnObject status => some status
  | _ => none

/-- The failure of a request that was not answered. -/
def ofTransport : TransportError -> EndpointError
  | .unreachable reason => .unreachable reason
  | .other kind message => .other kind message

instance : Worded EndpointError := ⟨message⟩

end EndpointError

namespace Reply

/-- Whether the status tells of no error. -/
def isGood (reply : Reply) : Bool :=
  !(400 ≤ reply.status && reply.status < 600)

/-- The length of the part of a bad answer that is noted. -/
def excerptLength : Nat := 500

/-- The JSON object of an answer, with a note on it. -/
def payload (reply : Reply) : Except EndpointError (Entries Value) × List Record :=
  if !reply.isGood then
    (.error (.refused reply.status reply.reason),
      [.error ("OpenSearch error response: " ++
        String.ofList (reply.text.toList.take excerptLength))])
  else
    match Json.read? reply.text with
    | none => (.error (.notJson reply.status), [])
    | some (.obj payload) =>
        (.ok payload,
          [.debug (s!"OpenSearch response ok: status={reply.status} took=" ++
            (Value.field payload "took").wording)])
    | some _ => (.error (.notAnObject reply.status), [])

end Reply

namespace Endpoint

/-- The headers of every request. -/
def headers : Entries String :=
  [("Content-Type", "application/json"),
    ("Accept", "application/json"),
    ("User-Agent", "corpus-search/0.1")]

/-- A text without the slashes at its end. -/
def withoutFinalSlashes (text : String) : String :=
  String.ofList (text.toList.reverse.dropWhile (· = '/')).reverse

/-- The address that searches are posted to. -/
def searchUrl (endpoint : Endpoint) : String :=
  withoutFinalSlashes endpoint.baseUrl ++ "/" ++ endpoint.index ++ "/_search"

/-- The user and the password, none where there is no user. -/
def credentials? (endpoint : Endpoint) : Option (String × String) :=
  if endpoint.user.isEmpty then none else some (endpoint.user, endpoint.password)

/-- The request with a body; a timeout of zero stands for none. -/
def post (endpoint : Endpoint) (body : Entries Value) (timeout : Option Seconds) : Post :=
  { url := endpoint.searchUrl
    body
    headers
    timeout :=
      match timeout with
      | some given => if given.isZero then endpoint.timeout else given
      | none => endpoint.timeout }

/-- The note before a request. -/
def requestNote (endpoint : Endpoint) (body : Entries Value) : Record :=
  .debug ("OpenSearch request: url=" ++ endpoint.searchUrl ++
    " from=" ++ (Value.field body "from").wording ++
    " size=" ++ (Value.field body "size").wording)

/-- Post a body and take the JSON object of the answer. -/
def search {m : Type -> Type} [Monad m] [MonadJournal m]
    (endpoint : Endpoint)
    (send : Post -> m (Except TransportError Reply))
    (body : Entries Value)
    (timeout : Option Seconds) :
    m (Except EndpointError (Entries Value)) := do
  record (endpoint.requestNote body)
  match <- send (endpoint.post body timeout) with
  | .error cause => pure (.error (.ofTransport cause))
  | .ok reply =>
      let (payload, notes) := reply.payload
      recordAll notes
      pure payload

end Endpoint
end Backend
end Concordance
