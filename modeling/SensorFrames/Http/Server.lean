import SensorFrames.Http.Address
import SensorFrames.Http.Reason
import SensorFrames.Json.Value
import SensorFrames.Service.Client

/-!
Requests over HTTP to a server with fixed replies, one for each request. A reply counts when its
status is a success and its body is JSON. A request that cannot be sent reaches no server.
-/

set_option autoImplicit false

namespace SensorFrames.Http

structure Reply where
  status : Nat
  body : String
deriving DecidableEq, Inhabited, Repr

structure Server where
  replies : List Reply
  received : List Request := []
deriving Inhabited

inductive Fault where
  | refused (refusal : Refusal)
  | noReply
  | status (code : Nat) (body : String)
  | undecodable

def Fault.failure : Fault → Failure
  | refused refusal => .transport refusal.detail
  | noReply => .transport "error sending request"
  | status code body => .transport (statusText code ++ ": " ++ body)
  | undecodable => .transport "error decoding response body"

def withoutMark (s : String) : String :=
  match s.toList with
  | c :: rest => if c.toNat = 0xFEFF then String.ofList rest else s
  | [] => s

def Reply.answer (r : Reply) : Except Fault Json :=
  let body := if hasNoBody r.status then "" else r.body
  if isSuccess r.status then
    match Json.ofText? body with
    | some json => .ok json
    | none => .error .undecodable
  else .error (.status r.status (withoutMark body))

def Server.get (r : Request) (s : Server) : Except Failure Json × Server :=
  match addressOf r with
  | .error refusal => (.error (Fault.refused refusal).failure, s)
  | .ok _ =>
    let answer := match s.replies[s.received.length]? with
      | some reply => reply.answer
      | none => .error .noReply
    (answer.mapError Fault.failure, { s with received := s.received ++ [r] })

def transport : Transport Server := ⟨Server.get⟩

def requestLine (r : Request) : String :=
  match Url.ofText? r.url with
  | none => ""
  | some url => "GET " ++ String.ofList url.target ++ " HTTP/1.1"

/-- The header lines of a request, as the server gets them: in order, with names in lower case. -/
def headerLines (r : Request) : List String :=
  Text.ordered (r.headers.map fun h => String.ofList (h.1.toList.map Char.toLower) ++ ": " ++ h.2)

end SensorFrames.Http
