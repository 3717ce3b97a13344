/-!
The proleptic Gregorian calendar, with a year zero and negative years, and the moments that a date,
a time of day and an offset name. A minute may have a leap second.
-/

set_option autoImplicit false

namespace SensorFrames.Timestamp

def isLeapYear (year : Int) : Bool :=
  year % 4 == 0 && (year % 100 != 0 || year % 400 == 0)

def daysInMonth (year : Int) (month : Nat) : Nat :=
  match month with
  | 2 => if isLeapYear year then 29 else 28
  | 4 | 6 | 9 | 11 => 30
  | _ => 31

def daysThrough (year : Int) : Nat → Nat
  | 0 => 0
  | month + 1 => daysThrough year month + daysInMonth year (month + 1)

def firstYear : Int := -262143

def lastYear : Int := 262142

structure Date where
  year : Int
  month : Nat
  day : Nat
deriving DecidableEq, Inhabited, Repr

namespace Date

def isValid (d : Date) : Bool :=
  decide (firstYear ≤ d.year) && decide (d.year ≤ lastYear) &&
    decide (1 ≤ d.month) && decide (d.month ≤ 12) &&
    decide (1 ≤ d.day) && decide (d.day ≤ daysInMonth d.year d.month)

def isFirst (d : Date) : Bool := d == ⟨firstYear, 1, 1⟩

def isLast (d : Date) : Bool := d == ⟨lastYear, 12, 31⟩

def dayOfYear (d : Date) : Nat := daysThrough d.year (d.month - 1) + d.day

/-- Days from 31 December of the year zero. -/
def dayNumber (d : Date) : Int :=
  let y := d.year - 1
  365 * y + y / 4 - y / 100 + y / 400 + d.dayOfYear

/-- Monday is 0. The first day of the year 1 is a Monday. -/
def weekday (d : Date) : Nat := ((d.dayNumber - 1) % 7).toNat

end Date

/-- What a text gives of a moment. Without an offset it is local time. -/
structure Moment where
  date : Date := ⟨0, 1, 1⟩
  hour : Nat := 0
  minute : Nat := 0
  second : Nat := 0
  offset : Int := 0
deriving DecidableEq, Inhabited, Repr

def secondsPerDay : Int := 86400

namespace Moment

def isTimeOfDay (m : Moment) : Bool :=
  decide (m.hour ≤ 23) && decide (m.minute ≤ 59) && decide (m.second ≤ 60)

/-- Second of the day, where a leap second counts as the one before it. -/
def secondOfDay (m : Moment) : Int := m.hour * 3600 + m.minute * 60 + min m.second 59

def hasUniversalTime (m : Moment) : Bool :=
  let universal := m.secondOfDay - m.offset
  decide (-secondsPerDay < m.offset) && decide (m.offset < secondsPerDay) &&
    !(m.date.isFirst && decide (universal < 0)) &&
    !(m.date.isLast && decide (secondsPerDay ≤ universal))

def isValid (m : Moment) : Bool := m.date.isValid && m.isTimeOfDay && m.hasUniversalTime

end Moment

end SensorFrames.Timestamp
