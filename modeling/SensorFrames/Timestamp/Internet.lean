import SensorFrames.Timestamp.Calendar
import SensorFrames.Timestamp.Number

/-!
Timestamps of RFC 3339: every number has its full width, the date and the time are joined by `T`
or a space, and an offset or `Z` ends the text.
-/

set_option autoImplicit false

namespace SensorFrames.Timestamp.Internet

open Text

def readZone : List Char → Option (Int × List Char)
  | [] => none
  | c :: rest =>
    if c = 'Z' ∨ c = 'z' then some (0, rest) else readOffset true (skipped ':') (c :: rest)

def read (cs : List Char) : Option (Moment × List Char) := do
  let (year, rest) ← readNumber 4 4 cs
  let (month, rest) ← readNumber 2 2 (← skipped '-' rest)
  let (day, rest) ← readNumber 2 2 (← skipped '-' rest)
  let rest ← match rest with
    | [] => none
    | c :: rest => if c = 'T' ∨ c = 't' ∨ c = ' ' then some rest else none
  let (hour, rest) ← readNumber 2 2 rest
  let (minute, rest) ← readNumber 2 2 (← skipped ':' rest)
  let (second, rest) ← readNumber 2 2 (← skipped ':' rest)
  let (offset, rest) ← readZone (← skipFraction rest)
  some ({ date := ⟨year, month, day⟩, hour, minute, second, offset }, rest)

def accepts (cs : List Char) : Bool :=
  match read cs with
  | some (m, []) => m.isValid
  | _ => false

end SensorFrames.Timestamp.Internet
