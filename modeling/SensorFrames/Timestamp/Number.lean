import SensorFrames.Text.Blank
import SensorFrames.Text.Reader

/-!
The parts that timestamps are made of: numbers of a bounded width, fractions of a second, offsets
from universal time.
-/

set_option autoImplicit false

namespace SensorFrames.Timestamp

open Text

def digitsUpTo : Nat → List Char → List Char × List Char
  | 0, cs => ([], cs)
  | _, [] => ([], [])
  | most + 1, c :: rest =>
    if isDigit c then
      let (digits, rest) := digitsUpTo most rest
      (c :: digits, rest)
    else ([], c :: rest)

def readNumber (least most : Nat) (cs : List Char) : Option (Nat × List Char) :=
  let (digits, rest) := digitsUpTo most cs
  if digits.length < least then none else some (numeral 10 digits, rest)

def readLongNumber (least : Nat) (cs : List Char) : Option (Nat × List Char) :=
  readNumber least cs.length cs

/-- Skips a point and the digits after it, of which there has to be one; without a point there is
nothing to skip. -/
def skipFraction : List Char → Option (List Char)
  | '.' :: c :: rest => if isDigit c then some (rest.dropWhile isDigit) else none
  | ['.'] => none
  | cs => some cs

def twoDigits : List Char → Option (Nat × List Char)
  | a :: b :: rest =>
    if isDigit a ∧ isDigit b then some (10 * digitValue a + digitValue b, rest) else none
  | _ => none

def minusSign : Char := Char.ofNat 0x2212

/-- Sign, hours, what `separator` takes off, and minutes below 60; in seconds. -/
def readOffset (typographic : Bool) (separator : List Char → Option (List Char))
    (cs : List Char) : Option (Int × List Char) := do
  let (sign, rest) ← match cs with
    | [] => none
    | c :: rest =>
      if c = '+' then some ((1 : Int), rest)
      else if c = '-' ∨ (typographic ∧ c = minusSign) then some (-1, rest)
      else none
  let (hours, rest) ← twoDigits rest
  let (minutes, rest) ← twoDigits (← separator rest)
  if minutes < 60 then some (sign * (hours * 3600 + minutes * 60), rest) else none

end SensorFrames.Timestamp
