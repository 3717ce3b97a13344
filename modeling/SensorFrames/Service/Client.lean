import SensorFrames.Service.Cache

/-!
A client asks an endpoint over a transport, which answers each request with a JSON body or fails.
A script is a transport with fixed answers in their order; past its end it fails.
-/

set_option autoImplicit false

namespace SensorFrames

/-- `σ` is what the transport remembers. -/
structure Transport (σ : Type) where
  get : Request → σ → Except Failure Json × σ

structure Script where
  answers : List (Except Failure Json)
  sent : List Request := []

namespace Script

def noAnswer : Except Failure Json := .error (.transport "no scripted response")

def get (r : Request) (s : Script) : Except Failure Json × Script :=
  (s.answers.getD s.sent.length noAnswer, { s with sent := s.sent ++ [r] })

def transport : Transport Script := ⟨get⟩

end Script

structure Client (σ : Type) where
  transport : Transport σ
  endpoint : Endpoint

namespace Client

variable {σ : Type}

def list (client : Client σ) (l : Listing) (s : σ) : Except Failure Page × σ :=
  let (answer, s) := client.transport.get (l.request client.endpoint) s
  (l.outcome answer, s)

def collect (client : Client σ) (limit : UInt64) (now : Int64) (s : σ) : Outcome × σ :=
  let (answer, s) := client.transport.get (Metadata.request client.endpoint limit) s
  (Metadata.outcome limit now answer, s)

inductive Missing where
  | key
  | url
deriving DecidableEq, Inhabited, Repr

def Missing.failure : Missing → Failure
  | key => .configuration
    "API Key is not configured. Please configure the API Key in the datasource settings."
  | url => .configuration
    "Server URL is not configured. Please configure the PRTG server URL in the datasource settings."

def missing? (e : Endpoint) : Option Missing :=
  if e.key = "" then some .key else if e.url = "" then some .url else none

def probe : Listing where
  limit := some 1

/-- The outcome of a probe, from the answer to its request: any body will do. -/
def probeOutcome : Except Failure Json → Except Failure Unit
  | .ok _ => .ok ()
  | .error f => .error (.connectionTest f.detail)

/-- Asks for one object. An endpoint that lacks something is not asked. -/
def testConnection (client : Client σ) (s : σ) : Except Failure Unit × σ :=
  match missing? client.endpoint with
  | some missing => (.error missing.failure, s)
  | none =>
    let (answer, s) := client.transport.get (probe.request client.endpoint) s
    (probeOutcome answer, s)

end Client

end SensorFrames
