import SensorFrames.Json.Basic
import SensorFrames.Service.Failure

/-!
What the service tells of its health: that it runs, and whether the server behind it could be
reached.
-/

set_option autoImplicit false

namespace SensorFrames

structure Health where
  isReachable : Bool
  message : String
deriving DecidableEq, Inhabited, Repr

namespace Health

def ofTest : Except Failure Unit → Health
  | .ok _ => ⟨true, "Successfully connected to PRTG API v2"⟩
  | .error f => ⟨false, "Failed to connect to PRTG API: " ++ f.message⟩

def status (h : Health) : String := if h.isReachable then "success" else "error"

def toJson (h : Health) : Json :=
  .object [("status", .str h.status), ("message", .str h.message)]

def alive : Json := .object [("status", .str "ok")]

end Health

end SensorFrames
