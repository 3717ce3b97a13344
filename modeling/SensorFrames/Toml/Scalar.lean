import SensorFrames.Number.Double
import SensorFrames.Text.Reader
import SensorFrames.Timestamp.Calendar
import SensorFrames.Timestamp.Number
import SensorFrames.Toml.Item

/-!
The numbers, datetimes and booleans of TOML. A number has no leading zeros, and an underscore stands
only between digits. Integers have 64 bits; a positive float may not exceed all doubles.
-/

set_option autoImplicit false

namespace SensorFrames.Toml

open SensorFrames.Text (Reader afterWord isDigit isDigitOf numeral)
open SensorFrames.Timestamp (twoDigits readNumber daysInMonth)

/-- Digits of the class, after a first one, with underscores between; the underscores are left out
of the result. -/
def moreDigits (p : Char → Bool) : List Char → Option (List Char × List Char)
  | [] => some ([], [])
  | ['_'] => none
  | '_' :: c :: rest =>
    if p c then (moreDigits p rest).map fun r => (c :: r.1, r.2) else none
  | c :: rest =>
    if p c then (moreDigits p rest).map fun r => (c :: r.1, r.2) else some ([], c :: rest)

def readDigits (p : Char → Bool) : Reader (List Char)
  | [] => none
  | c :: rest => if p c then (moreDigits p rest).map fun r => (c :: r.1, r.2) else none

def readWhole : Reader (List Char)
  | '0' :: rest => some (['0'], rest)
  | cs => readDigits isDigit cs

def readSign : List Char → Bool × List Char
  | '-' :: rest => (true, rest)
  | '+' :: rest => (false, rest)
  | cs => (false, cs)

def largestInteger : Int := 9223372036854775807

def integer? (n : Int) : Option Item :=
  if -largestInteger - 1 ≤ n ∧ n ≤ largestInteger then some (.integer n) else none

def readBased (base : Nat) (cs : List Char) : Option (Item × List Char) := do
  let (digits, rest) ← readDigits (isDigitOf base) cs
  (integer? (numeral base digits)).map (·, rest)

def readPlaces : Reader (Option (List Char))
  | '.' :: rest => (readDigits isDigit rest).map fun r => (some r.1, r.2)
  | cs => some (none, cs)

def readPower : Reader (Option Int)
  | c :: rest =>
    if c = 'e' ∨ c = 'E' then
      let (negative, rest) := readSign rest
      (readDigits isDigit rest).map fun r =>
        let size : Int := numeral 10 r.1
        (some (if negative then -size else size), r.2)
    else some (none, c :: rest)
  | [] => some (none, [])

/-- Only a negative float may be too large for a double. -/
def float? (negative : Bool) (mantissa : Nat) (scale : Int) : Option Item :=
  if negative ∨ (Double.ofDecimal? false mantissa scale).isSome then some .float else none

def readDecimal (cs : List Char) : Option (Item × List Char) := do
  let (negative, rest) := readSign cs
  let (whole, rest) ← readWhole rest
  let (places, rest) ← readPlaces rest
  let (power, rest) ← readPower rest
  match places, power with
  | none, none =>
    let size : Int := numeral 10 whole
    (integer? (if negative then -size else size)).map (·, rest)
  | _, _ =>
    let fraction := places.getD []
    let scale := power.getD 0 - fraction.length
    (float? negative (numeral 10 (whole ++ fraction)) scale).map (·, rest)

def readWordFloat (cs : List Char) : Option (Item × List Char) :=
  match afterWord ['i', 'n', 'f'] cs with
  | some rest => some (.float, rest)
  | none => (afterWord ['n', 'a', 'n'] cs).map (.float, ·)

def skipTime (cs : List Char) : Option (List Char) := do
  let (hour, rest) ← twoDigits cs
  let (minute, rest) ← twoDigits (← Text.skipped ':' rest)
  let (second, rest) ← twoDigits (← Text.skipped ':' rest)
  if hour ≤ 23 ∧ minute ≤ 59 ∧ second ≤ 60 then
    match rest with
    | '.' :: c :: more => some (if isDigit c then more.dropWhile isDigit else rest)
    | _ => some rest
  else none

def skipOffset : List Char → Option (List Char)
  | [] => some []
  | c :: rest =>
    if c = 'Z' ∨ c = 'z' then some rest
    else if c = '+' ∨ c = '-' then do
      let (hour, rest) ← twoDigits rest
      let (minute, rest) ← twoDigits (← Text.skipped ':' rest)
      if hour ≤ 23 ∧ minute ≤ 59 then some rest else none
    else some (c :: rest)

def skipDate (cs : List Char) : Option (List Char) := do
  let (year, rest) ← readNumber 4 4 cs
  let (month, rest) ← twoDigits (← Text.skipped '-' rest)
  let (day, rest) ← twoDigits (← Text.skipped '-' rest)
  if 1 ≤ month ∧ month ≤ 12 ∧ 1 ≤ day ∧ day ≤ daysInMonth year month then some rest else none

def readDatetime (cs : List Char) : Option (Item × List Char) :=
  match skipDate cs with
  | none => (skipTime cs).map (.datetime, ·)
  | some [] => some (.datetime, [])
  | some (c :: rest) =>
    if c = 'T' ∨ c = 't' ∨ c = ' ' then
      match skipTime rest with
      | some rest => (skipOffset rest).map (.datetime, ·)
      | none => some (.datetime, c :: rest)
    else some (.datetime, c :: rest)

def readNumeric (cs : List Char) : Option (Item × List Char) :=
  match readDatetime cs with
  | some r => some r
  | none => match cs with
    | '0' :: 'x' :: rest => readBased 16 rest
    | '0' :: 'o' :: rest => readBased 8 rest
    | '0' :: 'b' :: rest => readBased 2 rest
    | cs => match readWordFloat (readSign cs).2 with
      | some r => some r
      | none => readDecimal cs

end SensorFrames.Toml
