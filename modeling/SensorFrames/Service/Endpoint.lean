import SensorFrames.Filter.Clause
import SensorFrames.Text.Percent

/-!
Where requests go. The address of an endpoint is made from the base address of the server, its
`portNumber` and the parameters that are not empty, percent-encoded. Each request carries the key
of the server.
-/

set_option autoImplicit false

namespace SensorFrames

structure Endpoint where
  url : String
  portNumber : UInt16
  key : String
deriving DecidableEq, Inhabited, Repr

structure Request where
  url : String
  headers : List (String × String)
deriving DecidableEq, Inhabited, Repr

namespace Endpoint

def bareUrl (e : Endpoint) : String :=
  String.ofList ((e.url.toList.reverse.dropWhile (· == '/')).reverse)

def base (e : Endpoint) : String :=
  e.bareUrl ++ ":" ++ String.ofList (Nat.toDigits 10 e.portNumber.toNat) ++ "/api/v2"

def parameter (p : String × String) : String := p.1 ++ "=" ++ Text.Percent.encode p.2

/-- The address of a path below the base; a parameter with an empty value is left out. -/
def address (e : Endpoint) (path : String) (parameters : List (String × String)) : String :=
  let bare := e.base ++ "/" ++ path
  match parameters.filter (·.2 ≠ "") with
  | [] => bare
  | kept => bare ++ "?" ++ Filter.joined "&" (kept.map parameter)

def headers (e : Endpoint) : List (String × String) :=
  [("Authorization", "Bearer " ++ e.key), ("Content-Type", "application/json"),
    ("Accept", "application/json")]

def request (e : Endpoint) (path : String) (parameters : List (String × String)) : Request :=
  ⟨e.address path parameters, e.headers⟩

end Endpoint

end SensorFrames
