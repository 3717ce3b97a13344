import SensorFrames.Url.Host

/-!
Addresses in their parts, each written as it stands in the text. An address may lack an authority,
and an authority may lack a host.
-/

set_option autoImplicit false

namespace SensorFrames

namespace Url

structure Authority where
  username : List Char := []
  password : Option (List Char) := none
  host : List Char
  number : Option Nat := none
deriving DecidableEq, Inhabited, Repr

end Url

structure Url where
  scheme : List Char
  authority : Option Url.Authority := none
  path : List Char
  query : Option (List Char) := none
  fragment : Option (List Char) := none
deriving DecidableEq, Inhabited, Repr

namespace Url

namespace Authority

def userText (a : Authority) : List Char :=
  match a.username, a.password with
  | [], none => []
  | name, none => name ++ ['@']
  | name, some word => name ++ ':' :: word ++ ['@']

def text (a : Authority) : List Char :=
  a.userText ++ a.host ++ match a.number with
    | none => []
    | some n => ':' :: Host.decimal n

/-- A user with a name that can be read is told in a header, and not in the address. -/
def withoutUser (a : Authority) : Authority :=
  if (Host.decoded? a.username).isSome ∧
      (a.username ≠ [] ∨ (a.password.bind Host.decoded?).isSome) then
    { a with username := [], password := none }
  else a

end Authority

/-- A path with two slashes in front would look like an authority. -/
def pathText (u : Url) : List Char :=
  match u.authority, u.path with
  | none, '/' :: '/' :: rest => '/' :: '.' :: '/' :: '/' :: rest
  | _, path => path

def target (u : Url) : List Char :=
  u.pathText ++ match u.query with
    | none => []
    | some query => '?' :: query

def text (u : Url) : String :=
  let authority := match u.authority with
    | none => []
    | some a => '/' :: '/' :: a.text
  let fragment := match u.fragment with
    | none => []
    | some fragment => '#' :: fragment
  String.ofList (u.scheme ++ ':' :: authority ++ u.target ++ fragment)

def hasHost (u : Url) : Bool := u.authority.any (!·.host.isEmpty)

def withoutUser (u : Url) : Url := { u with authority := u.authority.map Authority.withoutUser }

end Url

end SensorFrames
