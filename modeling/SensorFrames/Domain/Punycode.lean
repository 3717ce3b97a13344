import SensorFrames.Text.Reader

/-!
Texts of any characters as ASCII. The ASCII characters stand first, then after a hyphen the others
as a chain of steps: each tells how far to go on from the place and the code point of the one
before. A step is a number whose digits come least first; how large its last digit may be goes with
the steps before it.
-/

set_option autoImplicit false

namespace SensorFrames.Domain

def firstStep : Nat := 0x80

def base : Nat := 36

def stepDigit (n : Nat) : Char :=
  Char.ofNat (if n < 26 then 'a'.toNat + n else '0'.toNat + (n - 26))

def stepDigitValue? (c : Char) : Option Nat :=
  if 'a' ≤ c ∧ c ≤ 'z' then some (c.toNat - 'a'.toNat)
  else if Text.isDigit c then some (26 + Text.digitValue c)
  else none

/-- A digit below this one is the last. -/
def lastBound (bias place : Nat) : Nat := min 26 (max 1 (base * (place + 1) - bias))

theorem lastBound_pos (bias place : Nat) : 1 ≤ lastBound bias place := by
  unfold lastBound; omega

def scaled (count step : Nat) : Nat × Nat :=
  if 455 < step then scaled (count + 1) (step / 35) else (count, step)
termination_by step
decreasing_by omega

def nextBias (isFirst : Bool) (step length : Nat) : Nat :=
  let step := if isFirst then step / 700 else step / 2
  let (count, rest) := scaled 0 (step + step / length)
  base * count + base * rest / (rest + 38)

def firstBias : Nat := 72

def stepDigits (bias place n : Nat) : List Char :=
  let bound := lastBound bias place
  if n < bound then [stepDigit n]
  else stepDigit (bound + (n - bound) % (base - bound)) ::
    stepDigits bias (place + 1) ((n - bound) / (base - bound))
termination_by n
decreasing_by
  have := lastBound_pos bias place
  exact Nat.lt_of_le_of_lt (Nat.div_le_self _ _) (by omega)

/-- A writer goes through the text once for each code point, in rising order. -/
structure Writer where
  isFirst : Bool := true
  bias : Nat := firstBias
  step : Nat := 0
  length : Nat

namespace Writer

def write (code : Nat) : List Char → Writer → List Char × Writer
  | [], w => ([], w)
  | c :: rest, w =>
    if c.toNat < code then write code rest { w with step := w.step + 1 }
    else if c.toNat = code then
      let digits := stepDigits w.bias 0 w.step
      let (more, w) := write code rest
        { isFirst := false
          bias := nextBias w.isFirst w.step (w.length + 1)
          step := 0
          length := w.length + 1 }
      (digits ++ more, w)
    else write code rest w

/-- The digits for all code points of the list, which is in rising order; `next` is the least that
has not been passed. -/
def writeAll (text : List Char) (next : Nat) : List Nat → Writer → List Char
  | [], _ => []
  | code :: codes, w =>
    let (digits, w) := write code text { w with step := w.step + (code - next) * (w.length + 1) }
    digits ++ writeAll text (code + 1) codes { w with step := w.step + 1 }

end Writer

def rising (codes : List Nat) : List Nat :=
  codes.foldr (fun n rest => rest.takeWhile (· < n) ++ n :: rest.dropWhile (· ≤ n)) []

def isAscii (c : Char) : Bool := decide (c.toNat < firstStep)

def punycode (text : List Char) : List Char :=
  let plain := text.filter isAscii
  let codes := rising ((text.filter (!isAscii ·)).map Char.toNat)
  (if plain.isEmpty then [] else plain ++ ['-']) ++
    Writer.writeAll text firstStep codes { length := plain.length }

/-- The number that the digits from `place` on write, where each counts `weight` times as much; and
the rest. -/
def readStep (bias : Nat) : Nat → Nat → List Char → Option (Nat × List Char)
  | _, _, [] => none
  | place, weight, c :: rest => do
    let digit ← stepDigitValue? c
    let bound := lastBound bias place
    if digit < bound then some (weight * digit, rest)
    else do
      let (more, rest) ← readStep bias (place + 1) (weight * (base - bound)) rest
      some (weight * digit + more, rest)

/-- Follows the steps that the digits write, at most `bound` of them. `place` and `code` are where
the step before has led. -/
def followSteps (isFirst : Bool) (bias place code : Nat) (text : List Char) :
    Nat → List Char → Option (List Char)
  | _, [] => some text
  | 0, _ => none
  | bound + 1, digits => do
    let (step, rest) ← readStep bias 0 1 digits
    let length := text.length + 1
    let place := place + step
    let code := code + place / length
    let place := place % length
    if code.isValidChar then
      followSteps false (nextBias isFirst step length) (place + 1) code
        (text.take place ++ Char.ofNat code :: text.drop place) bound rest
    else none

def ofPunycode? (cs : List Char) : Option (List Char) :=
  let digits := (cs.reverse.takeWhile (· != '-')).reverse
  let plain := cs.take (cs.length - digits.length - 1)
  if cs.all isAscii then followSteps true firstBias 0 firstStep plain digits.length digits else none

end SensorFrames.Domain
