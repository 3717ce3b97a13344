import SensorFrames.Number.Power

/-!
Doubles: 64 bits that stand for a sign, a fraction of 52 bits and an exponent of 11 bits. A finite
double has the size `significand * 2 ^ power`. A positive quotient of naturals is rounded to the
nearest double; of two that are equally near, the one with the even significand is taken.
-/

set_option autoImplicit false

namespace SensorFrames

structure Double where
  bits : UInt64
deriving DecidableEq, Inhabited, Repr

namespace Double

def fractionBits : Nat := 52

def leastPower : Int := -1074

def greatestPower : Int := 971

def isNegative (d : Double) : Bool := d.bits.toNat / twoTo 63 == 1

def fraction (d : Double) : Nat := d.bits.toNat % twoTo fractionBits

def exponent (d : Double) : Nat := d.bits.toNat / twoTo fractionBits % twoTo 11

def significand (d : Double) : Nat :=
  if d.exponent = 0 then d.fraction else d.fraction + twoTo fractionBits

def power (d : Double) : Int :=
  if d.exponent = 0 then leastPower else (d.exponent : Int) - 1 + leastPower

/-- Both zeros count. -/
def isZero (d : Double) : Bool := d.significand == 0

def zero (negative : Bool) : Double := ⟨if negative then 0x8000000000000000 else 0⟩

def ofParts (negative : Bool) (significand : Nat) (power : Int) : Double :=
  let size :=
    if significand < twoTo fractionBits then significand
    else (power - leastPower).toNat * twoTo fractionBits + significand
  ⟨UInt64.ofNat (size + if negative then twoTo 63 else 0)⟩

/-- The quotient rounded to the nearest natural, a half to the even one. -/
def roundedQuotient (n d : Nat) : Nat :=
  let q := n / d
  let r := n % d
  if 2 * r < d then q
  else if d < 2 * r then q + 1
  else if q % 2 = 0 then q else q + 1

def inUnits (n d : Nat) (power : Int) : Nat × Nat :=
  if 0 ≤ power then (n, d * twoTo power.toNat) else (n * twoTo (-power).toNat, d)

/-- The power in which `n / d` has a significand of 53 bits, or the least power. -/
def unitPower (n d : Nat) : Int :=
  let guess : Int := (n.log2 : Int) - (d.log2 : Int) - fractionBits
  let (a, b) := inUnits n d guess
  max leastPower (if a / b < twoTo fractionBits then guess - 1 else guess)

/-- The double nearest to `n / d`; none when it is too large for any. -/
def ofQuotient? (negative : Bool) (n d : Nat) : Option Double :=
  let power := unitPower n d
  let (a, b) := inUnits n d power
  let m := roundedQuotient a b
  let (m, power) :=
    if m = twoTo (fractionBits + 1) then (twoTo fractionBits, power + 1) else (m, power)
  if greatestPower < power then none else some (ofParts negative m power)

/-- More decimal places before the point than any double has. -/
def tooManyPlaces : Int := 310

/-- So far behind the point that the nearest double is zero. -/
def tooFewPlaces : Int := -330

def ofDecimal? (negative : Bool) (m : Nat) (e : Int) : Option Double :=
  let places : Int := (Nat.toDigits 10 m).length + e
  if m = 0 ∨ places < tooFewPlaces then some (zero negative)
  else if tooManyPlaces < places then none
  else if 0 ≤ e then ofQuotient? negative (m * tenTo e.toNat) 1
  else ofQuotient? negative m (tenTo (-e).toNat)

end Double

end SensorFrames
