import SensorFrames.Timestamp.Calendar
import SensorFrames.Timestamp.Number

/-!
Timestamps by patterns. A pattern is a list of items that take their part off the text in turn; it
accepts a text when nothing is left over and the parts make a moment. Blanks before a number are
skipped, and an item for blanks also takes none.
-/

set_option autoImplicit false

namespace SensorFrames.Timestamp

open Text

inductive Item where
  | year
  | month
  | day
  | hour
  | hourOfTwelve
  | minute
  | second
  | fraction
  | halfDay
  | offset
  | blanks
  | literal (c : Char)
deriving DecidableEq, Repr

abbrev Pattern := List Item

/-- With a sign the year has any width, without one at most four digits. -/
def readYear : List Char → Option (Int × List Char)
  | '-' :: rest => (readLongNumber 1 rest).map fun (n, rest) => (-(n : Int), rest)
  | '+' :: rest => (readLongNumber 1 rest).map fun (n, rest) => ((n : Int), rest)
  | cs => (readNumber 1 4 cs).map fun (n, rest) => ((n : Int), rest)

def readHalfDay : List Char → Option (Bool × List Char)
  | a :: m :: rest =>
    if m.toLower = 'm' then
      if a.toLower = 'a' then some (false, rest)
      else if a.toLower = 'p' then some (true, rest)
      else none
    else none
  | _ => none

def readPair (cs : List Char) : Option (Nat × List Char) := readNumber 1 2 (skipBlank cs)

def skipColons (cs : List Char) : Option (List Char) :=
  some (cs.dropWhile fun c => c == ':' || isBlank c)

namespace Item

def read (m : Moment) (cs : List Char) : Item → Option (Moment × List Char)
  | year => (readYear (skipBlank cs)).map fun (n, rest) =>
    ({ m with date := { m.date with year := n } }, rest)
  | month => (readPair cs).map fun (n, rest) =>
    ({ m with date := { m.date with month := n } }, rest)
  | day => (readPair cs).map fun (n, rest) => ({ m with date := { m.date with day := n } }, rest)
  | hour => (readPair cs).map fun (n, rest) => ({ m with hour := n }, rest)
  | hourOfTwelve => do
    let (n, rest) ← readPair cs
    if 1 ≤ n ∧ n ≤ 12 then some ({ m with hour := n % 12 }, rest) else none
  | minute => (readPair cs).map fun (n, rest) => ({ m with minute := n }, rest)
  | second => (readPair cs).map fun (n, rest) => ({ m with second := n }, rest)
  | fraction => (skipFraction cs).map (m, ·)
  | halfDay => (readHalfDay cs).map fun (late, rest) =>
    ({ m with hour := if late then m.hour + 12 else m.hour }, rest)
  | offset => (readOffset true skipColons (skipBlank cs)).map fun (n, rest) =>
    ({ m with offset := n }, rest)
  | blanks => some (m, skipBlank cs)
  | literal c => (skipped c cs).map (m, ·)

end Item

namespace Pattern

def read : Pattern → Moment → List Char → Option (Moment × List Char)
  | [], m, cs => some (m, cs)
  | item :: pattern, m, cs => do
    let (m, rest) ← item.read m cs
    read pattern m rest

def accepts (pattern : Pattern) (cs : List Char) : Bool :=
  match read pattern {} cs with
  | some (m, []) => m.isValid
  | _ => false

def yearFirst (separator : Char) : Pattern :=
  [.year, .literal separator, .month, .literal separator, .day]

def monthFirst : Pattern := [.month, .literal '/', .day, .literal '/', .year]

def dayFirst : Pattern := [.day, .literal '.', .month, .literal '.', .year]

def minutes : Pattern := [.hour, .literal ':', .minute]

def seconds : Pattern := minutes ++ [.literal ':', .second]

def seconds12 : Pattern :=
  [.hourOfTwelve, .literal ':', .minute, .literal ':', .second, .blanks, .halfDay]

def universal : List Pattern :=
  [yearFirst '-' ++ [.blanks] ++ seconds ++ [.blanks, .offset],
    yearFirst '-' ++ [.literal 'T'] ++ seconds ++ [.fraction, .offset]]

def localTime : List Pattern :=
  [yearFirst '-' ++ [.literal 'T'] ++ seconds,
    yearFirst '-' ++ [.literal 'T'] ++ seconds ++ [.fraction],
    yearFirst '-' ++ [.literal 'T'] ++ minutes,
    yearFirst '-' ++ [.literal 'T'] ++ minutes ++ [.literal 'Z'],
    yearFirst '-' ++ [.blanks] ++ seconds,
    yearFirst '-' ++ [.blanks] ++ seconds ++ [.fraction],
    yearFirst '-' ++ [.blanks] ++ minutes,
    yearFirst '/' ++ [.blanks] ++ seconds,
    monthFirst ++ [.blanks] ++ seconds,
    monthFirst ++ [.blanks] ++ seconds12,
    dayFirst ++ [.blanks] ++ seconds]

def dates : List Pattern := [yearFirst '-', yearFirst '/', monthFirst]

end Pattern

end SensorFrames.Timestamp
