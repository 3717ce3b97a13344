import SensorFrames.Json.Basic
import SensorFrames.Json.Written

/-!
The value that a JSON text stands for. An integer of 64 bits stays one; `-0`, a number with a point
or an exponent and an integer that is too long are rounded to doubles, and a number too large for
a double has no value. Of members with one key the last counts.
-/

set_option autoImplicit false

namespace SensorFrames.Json

def Figures.number? (f : Figures) : Option Number :=
  if f.whole ∧ !f.negative ∧ f.mantissa < UInt64.size then some (.integer f.mantissa)
  else if f.whole ∧ f.negative ∧ 0 < f.mantissa ∧ f.mantissa ≤ twoTo 63 then
    some (.integer (-f.mantissa))
  else (Double.ofDecimal? f.negative f.mantissa f.scale).map .double

def nestingLimit : Nat := 127

/-- None when a number has no value, a string is no text or the nesting goes beyond `depth`. -/
def ofWritten? : Nat → Written → Option Json
  | _, .null => some .null
  | _, .bool b => some (.bool b)
  | _, .number f => f.number?.map .num
  | _, .string s => s.map .str
  | 0, .array _ => none
  | depth + 1, .array items => (items.mapM (ofWritten? depth)).map .arr
  | 0, .object _ => none
  | depth + 1, .object members =>
    (members.mapM fun (m : Option String × Written) => do
      let key ← m.1
      let value ← ofWritten? depth m.2
      some (key, value)).map object

def ofText? (s : String) : Option Json := do
  ofWritten? nestingLimit (← Written.ofText? s)

end SensorFrames.Json
