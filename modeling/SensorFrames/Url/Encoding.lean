import SensorFrames.Text.Percent

/-!
How the parts of an address are written. Controls and characters beyond ASCII are percent-encoded
everywhere, and each part has signs of its own that are too, for they would end it or are not safe
in it. What is percent-encoded already stays so.
-/

set_option autoImplicit false

namespace SensorFrames.Url

inductive Part where
  /-- A host or path that is not looked into. -/
  | plain
  | user
  | path
  | query
  /-- The query of an address whose scheme is known. -/
  | knownQuery
  | fragment
deriving DecidableEq, Inhabited, Repr

def Part.signs : Part → List Char
  | plain => []
  | fragment => [' ', '"', '<', '>', '\x60']
  | path => [' ', '"', '<', '>', '\x60', '#', '?', '\x7b', '\x7d']
  | user =>
    [' ', '"', '<', '>', '\x60', '#', '?', '\x7b', '\x7d', '/', ':', ';', '=', '@', '[', '\\', ']',
      '^', '|']
  | query => [' ', '"', '#', '<', '>']
  | knownQuery => [' ', '"', '#', '<', '>', '\'']

def Part.encodes (part : Part) (c : Char) : Bool :=
  decide (c.toNat < 0x20) || decide (0x7F ≤ c.toNat) || part.signs.contains c

def Part.encodedChar (part : Part) (c : Char) : List Char :=
  if part.encodes c then (String.utf8EncodeChar c).flatMap Text.Percent.triple else [c]

def Part.encoded (part : Part) (cs : List Char) : List Char := cs.flatMap part.encodedChar

end SensorFrames.Url
