import SensorFrames.Timestamp.Calendar
import SensorFrames.Timestamp.Number

/-!
Timestamps of RFC 2822, as mail headers have them: an optional weekday, which has to be that of the
date, day, name of the month, year, time of day and zone, with blanks between, and comments in
parentheses after the zone. A year of two digits is one from 1950 to 2049, and one of three digits
counts from 1900.
-/

set_option autoImplicit false

namespace SensorFrames.Timestamp.Mail

open Text

def weekdays : List (List Char) :=
  [['m', 'o', 'n'], ['t', 'u', 'e'], ['w', 'e', 'd'], ['t', 'h', 'u'], ['f', 'r', 'i'],
    ['s', 'a', 't'], ['s', 'u', 'n']]

def months : List (List Char) :=
  [['j', 'a', 'n'], ['f', 'e', 'b'], ['m', 'a', 'r'], ['a', 'p', 'r'], ['m', 'a', 'y'],
    ['j', 'u', 'n'], ['j', 'u', 'l'], ['a', 'u', 'g'], ['s', 'e', 'p'], ['o', 'c', 't'],
    ['n', 'o', 'v'], ['d', 'e', 'c']]

/-- The place in the list of the name that the first three letters spell, in either case. -/
def readName (names : List (List Char)) (cs : List Char) : Option (Nat × List Char) :=
  (names.findIdx? (· == (cs.take 3).map Char.toLower)).map (·, cs.drop 3)

/-- The weekday and the comma after it. Where no weekday is named there is nothing to read. -/
def readWeekday (cs : List Char) : Option (Option Nat × List Char) :=
  match readName weekdays cs with
  | none => some (none, cs)
  | some (day, rest) => (skipped ',' rest).map (some day, ·)

def readGap : List Char → Option (List Char)
  | [] => none
  | c :: rest => if isBlank c then some (skipBlank rest) else none

def readYear (cs : List Char) : Option (Nat × List Char) := do
  let (year, rest) ← readLongNumber 2 cs
  match cs.length - rest.length with
  | 2 => some (if year < 50 then year + 2000 else year + 1900, rest)
  | 3 => some (year + 1900, rest)
  | _ => some (year, rest)

def isLetter (c : Char) : Bool := c.isAlpha

def namedZones : List (List Char × Int) :=
  [(['g', 'm', 't'], 0), (['u', 't'], 0), (['z'], 0), (['e', 'd', 't'], -4), (['e', 's', 't'], -5),
    (['c', 'd', 't'], -5), (['c', 's', 't'], -6), (['m', 'd', 't'], -6), (['m', 's', 't'], -7),
    (['p', 'd', 't'], -7), (['p', 's', 't'], -8)]

/-- A single letter other than `j` is a military zone, whose offset is not relied on. -/
def zoneHours (name : List Char) : Option Int :=
  match namedZones.lookup name with
  | some hours => some hours
  | none => match name with
    | [c] => if c = 'j' then none else some 0
    | _ => none

def readZone (cs : List Char) : Option (Int × List Char) :=
  let (name, rest) := run isLetter cs
  if name.isEmpty then readOffset false some cs
  else (zoneHours (name.map Char.toLower)).map fun hours => (hours * 3600, rest)

/-- The rest of a comment, with `level` comments open around it. A backslash takes the next
character with it. -/
def skipComment : Nat → List Char → Option (List Char)
  | _, [] => none
  | _, ['\\'] => none
  | level, '\\' :: _ :: rest => skipComment level rest
  | level, '(' :: rest => skipComment (level + 1) rest
  | 0, ')' :: rest => some rest
  | level + 1, ')' :: rest => skipComment level rest
  | level, _ :: rest => skipComment level rest

def skipComments : Nat → List Char → List Char
  | 0, cs => cs
  | bound + 1, cs =>
    match skipBlank cs with
    | '(' :: rest => match skipComment 0 rest with
      | some rest => skipComments bound rest
      | none => cs
    | _ => cs

def readSeconds (cs : List Char) : Option (Nat × List Char) :=
  match skipBlank cs with
  | ':' :: rest => readNumber 2 2 rest
  | _ => some (0, cs)

def read (cs : List Char) : Option (Option Nat × Moment × List Char) := do
  let (weekday, rest) ← readWeekday (skipBlank cs)
  let (day, rest) ← readNumber 1 2 (skipBlank rest)
  let (month, rest) ← readName months (← readGap rest)
  let (year, rest) ← readYear (← readGap rest)
  let (hour, rest) ← readNumber 2 2 (← readGap rest)
  let rest ← skipped ':' (skipBlank rest)
  let (minute, rest) ← readNumber 2 2 (skipBlank rest)
  let (second, rest) ← readSeconds rest
  let (offset, rest) ← readZone (← readGap rest)
  let date := ⟨year, month + 1, day⟩
  some (weekday, { date, hour, minute, second, offset }, skipComments rest.length rest)

def accepts (cs : List Char) : Bool :=
  match read cs with
  | some (weekday, m, []) => m.isValid && weekday.all (· == m.date.weekday)
  | _ => false

end SensorFrames.Timestamp.Mail
