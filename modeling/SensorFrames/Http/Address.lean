import SensorFrames.Service.Endpoint
import SensorFrames.Url.Written

/-!
Which requests can be sent over HTTP. The address has to be one with a host, its scheme `http` or
`https`, and not too long, and the values of headers hold no control characters other than the tab.
An address that can be read but not used is named in the refusal.
-/

set_option autoImplicit false

namespace SensorFrames.Http

inductive Refusal where
  | malformed
  | unusable (url : Url)
deriving DecidableEq, Repr

def Refusal.detail : Refusal → String
  | malformed => "builder error"
  | unusable url => "builder error for url (" ++ url.text ++ ")"

def isHeaderValue (s : String) : Bool :=
  s.toList.all fun c => (decide (0x20 ≤ c.toNat) && c.toNat != 0x7F) || c == '\t'

/-- Signs that a host may have in an address, but not in a request. -/
def unsent : List Char := ['"', '\x60', '\x7b', '\x7d']

def longest : Nat := 65534

def isSentTo (url : Url) : Bool :=
  (url.scheme == "http".toList || url.scheme == "https".toList) &&
    (url.authority.any fun a => !a.host.any unsent.contains) &&
    decide (url.text.utf8ByteSize ≤ longest)

def addressOf (r : Request) : Except Refusal Url :=
  match Url.ofText? r.url with
  | none => .error .malformed
  | some url =>
    if !url.hasHost then .error (.unusable url)
    else if !r.headers.all fun h => isHeaderValue h.2 then .error .malformed
    else if !isSentTo url.withoutUser then .error (.unusable url.withoutUser)
    else .ok url.withoutUser

end SensorFrames.Http
