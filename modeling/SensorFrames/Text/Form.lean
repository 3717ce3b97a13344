import SensorFrames.Text.Percent
import SensorFrames.Text.Reader

/-!
Query strings as forms send them: pieces between `&`, each a name and, after its first `=`, a
value; `+` stands for a space, and percent triples for bytes. Names and values are kept as bytes.
The query of an address ends where its fragment starts.
-/

set_option autoImplicit false

namespace SensorFrames.Text.Form

open Percent

def ampersand : UInt8 := 0x26
def equalsSign : UInt8 := 0x3D
def plusSign : UInt8 := 0x2B
def space : UInt8 := 0x20

def unescape (bytes : List UInt8) : List UInt8 :=
  decodeBytes (bytes.map fun b => if b = plusSign then space else b)

/-- A piece without `=` has an empty value. -/
def pair (piece : List UInt8) : List UInt8 × List UInt8 :=
  (unescape (piece.takeWhile (· != equalsSign)),
    unescape ((piece.dropWhile (· != equalsSign)).drop 1))

def pairs (query : String) : List (List UInt8 × List UInt8) :=
  ((pieces ampersand (utf8 query)).filter (!·.isEmpty)).map pair

def allowed (c : Char) : Bool := !(c.toNat ≤ 0x20 || c = '"' || c = '<' || c = '>')

/-- What a request holds of the text after the `?` of its address: all before the first `#`. There
is no such request when a character before it is not allowed. -/
def sent? (text : String) : Option String :=
  let query := text.toList.takeWhile (· != '#')
  if query.all allowed then some (String.ofList query) else none

end SensorFrames.Text.Form
