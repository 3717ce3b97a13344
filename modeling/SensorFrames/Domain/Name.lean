import SensorFrames.Domain.Direction
import SensorFrames.Domain.Joining
import SensorFrames.Domain.Mapping
import SensorFrames.Domain.Normal
import SensorFrames.Domain.Punycode

/-!
Domain names as ASCII. A name is folded and normalised and falls into labels at its dots; a label
that holds other characters is written in ASCII behind `xn--`, and one that is written so already
has to stand for a label that folding would leave as it is.
-/

set_option autoImplicit false

namespace SensorFrames.Domain

open Text

def isForbidden (c : Char) : Bool :=
  decide (c.toNat ≤ 0x20) || c.toNat == 0x7F || "%#/:<>?@[\\]^|".toList.contains c

/-- What stands in front of a label that is written in ASCII. -/
def marker : List Char := "xn--".toList

def longestRead : Nat := 2000

def longestWritten : Nat := 1000

structure Label where
  meant : List Char
  written : List Char
deriving DecidableEq, Inhabited, Repr

/-- A label that can be neither is refused: it begins with a mark, or a joiner stands where none
may. -/
def isLabel (cs : List Char) : Bool := !cs.head?.any isMark && joinersFit [] cs

def readLabel? (cs : List Char) : Option (List Char) :=
  if cs.getLast? = some '-' ∨ cs = [] ∨ cs.length > longestRead then none
  else
    match ofPunycode? cs with
    | none => none
    | some meant =>
      if meant.all isSettled && !meant.any isForbidden && !meant.contains '.' &&
          normal meant == meant then some meant
      else none

def Label.ofFolded? (cs : List Char) : Option Label :=
  if marker.isPrefixOf cs then
    match readLabel? (cs.drop marker.length) with
    | some meant => if isLabel meant then some ⟨meant, cs⟩ else none
    | none => none
  else if !isLabel cs then none
  else if cs.all isAscii then some ⟨cs, cs⟩
  else if cs.length > longestWritten then none
  else some ⟨cs, marker ++ punycode cs⟩

def toAscii? (cs : List Char) : Option (List Char) := do
  let folded := normal (← cs.mapM folded?).flatten
  if folded.any isForbidden then none
  else
    let labels ← (pieces '.' folded).mapM Label.ofFolded?
    if directionsFit (labels.map (·.meant)) then
      some (['.'].intercalate (labels.map (·.written)))
    else none

end SensorFrames.Domain
