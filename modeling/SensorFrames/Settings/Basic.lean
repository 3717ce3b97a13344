import SensorFrames.Service.Endpoint
import SensorFrames.Text.Reader

/-!
The settings of the service: the server it asks, its key, and the address it listens on. Variables
of the environment go before what a file says. A number of the environment counts when it reads as
one of its range, and else leaves the setting as it was.
-/

set_option autoImplicit false

namespace SensorFrames

structure Settings where
  url : String := ""
  portNumber : UInt16 := 1616
  key : String := ""
  allowInsecure : Bool := false
  metadataLimit : UInt64 := 1000
  listenAddress : String := "0.0.0.0:8080"
deriving DecidableEq, Inhabited, Repr

structure Environment where
  url : Option String := none
  portNumber : Option String := none
  key : Option String := none
  allowInsecure : Option String := none
  metadataLimit : Option String := none
  listenAddress : Option String := none
deriving DecidableEq, Inhabited, Repr

/-- A number in ASCII digits with at most a plus before them, below `bound`. -/
def readBelow (bound : Nat) (s : String) : Option Nat :=
  let digits := match s.toList with
    | '+' :: rest => rest
    | cs => cs
  if digits ≠ [] ∧ digits.all Text.isDigit ∧ Text.numeral 10 digits < bound then
    some (Text.numeral 10 digits)
  else none

def readPortNumber (s : String) : Option UInt16 := (readBelow UInt16.size s).map UInt16.ofNat

def readLimit (s : String) : Option UInt64 := (readBelow UInt64.size s).map UInt64.ofNat

def meansYes (s : String) : Bool := s == "1" || s == "true" || s == "yes"

namespace Settings

def override (e : Environment) (s : Settings) : Settings where
  url := e.url.getD s.url
  portNumber := (e.portNumber.bind readPortNumber).getD s.portNumber
  key := e.key.getD s.key
  allowInsecure := (e.allowInsecure.map meansYes).getD s.allowInsecure
  metadataLimit := (e.metadataLimit.bind readLimit).getD s.metadataLimit
  listenAddress := e.listenAddress.getD s.listenAddress

def endpoint (s : Settings) : Endpoint := ⟨s.url, s.portNumber, s.key⟩

end Settings

end SensorFrames
