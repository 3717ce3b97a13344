import SensorFrames.Timestamp.Calendar

/-!
The days of the calendar by the rules that are told of them. Main statements: of the years that are
written in four digits a date counts just when it is such a day, and a moment of universal time just
when its hour, minute and second are in range too, where a second may be a leap second.
-/

set_option autoImplicit false

namespace SensorFrames.Timestamp

def longMonths : List Nat := [1, 3, 5, 7, 8, 10, 12]

def shortMonths : List Nat := [4, 6, 9, 11]

/-- The days of a year, by month and day. Every fourth year has a leap day, but of the full
centuries only every fourth one. -/
inductive IsDay (year : Nat) : Nat → Nat → Prop where
  | long {month day : Nat} : month ∈ longMonths → 1 ≤ day → day ≤ 31 → IsDay year month day
  | short {month day : Nat} : month ∈ shortMonths → 1 ≤ day → day ≤ 30 → IsDay year month day
  | february {day : Nat} : 1 ≤ day → day ≤ 28 → IsDay year 2 day
  | leapDay : 4 ∣ year → (100 ∣ year → 400 ∣ year) → IsDay year 2 29

theorem isLeapYear_ofNat (year : Nat) :
    isLeapYear (year : Int) = true ↔ 4 ∣ year ∧ (100 ∣ year → 400 ∣ year) := by
  simp only [isLeapYear, Bool.and_eq_true, Bool.or_eq_true, beq_iff_eq, bne_iff_ne]
  omega

theorem daysInMonth_long {month : Nat} (h : month ∈ longMonths) (year : Int) :
    daysInMonth year month = 31 := by
  have hall : ∀ month ∈ longMonths, daysInMonth year month = 31 := by simp [longMonths, daysInMonth]
  exact hall month h

theorem daysInMonth_short {month : Nat} (h : month ∈ shortMonths) (year : Int) :
    daysInMonth year month = 30 := by
  have hall : ∀ month ∈ shortMonths, daysInMonth year month = 30 := by
    simp [shortMonths, daysInMonth]
  exact hall month h

theorem month_cases {month : Nat} (hlow : 1 ≤ month) (hhigh : month ≤ 12) :
    month ∈ longMonths ∨ month ∈ shortMonths ∨ month = 2 := by
  simp only [longMonths, shortMonths, List.mem_cons, List.not_mem_nil, or_false]
  omega

theorem month_range {month : Nat} (h : month ∈ longMonths ∨ month ∈ shortMonths) :
    1 ≤ month ∧ month ≤ 12 := by
  simp only [longMonths, shortMonths, List.mem_cons, List.not_mem_nil, or_false] at h
  omega

theorem isDay_iff {year month day : Nat} :
    IsDay year month day ↔
      1 ≤ month ∧ month ≤ 12 ∧ 1 ≤ day ∧ day ≤ daysInMonth year month := by
  have hleap := isLeapYear_ofNat year
  have hfebruary : daysInMonth year 2 = if isLeapYear year then 29 else 28 := rfl
  constructor
  · intro h
    cases h with
    | long hmonth hfirst hlast =>
      obtain ⟨hlow, hhigh⟩ := month_range (.inl hmonth)
      exact ⟨hlow, hhigh, hfirst, by rwa [daysInMonth_long hmonth]⟩
    | short hmonth hfirst hlast =>
      obtain ⟨hlow, hhigh⟩ := month_range (.inr hmonth)
      exact ⟨hlow, hhigh, hfirst, by rwa [daysInMonth_short hmonth]⟩
    | february hfirst hlast =>
      rw [hfebruary]
      split <;> omega
    | leapDay hfour hcentury =>
      rw [hfebruary, if_pos (hleap.mpr ⟨hfour, hcentury⟩)]
      decide
  · rintro ⟨hlow, hhigh, hfirst, hlast⟩
    rcases month_cases hlow hhigh with hmonth | hmonth | rfl
    · exact .long hmonth hfirst (daysInMonth_long hmonth year ▸ hlast)
    · exact .short hmonth hfirst (daysInMonth_short hmonth year ▸ hlast)
    · rw [hfebruary] at hlast
      split at hlast
      · rename_i hyear
        rcases Nat.lt_or_ge day 29 with hlt | hge
        · exact .february hfirst (Nat.le_of_lt_succ hlt)
        · obtain rfl : day = 29 := Nat.le_antisymm hlast hge
          exact .leapDay (hleap.mp hyear).1 (hleap.mp hyear).2
      · exact .february hfirst hlast

namespace Date

theorem isValid_iff_isDay {year : Nat} (h : year ≤ 9999) (month day : Nat) :
    isValid ⟨year, month, day⟩ = true ↔ IsDay year month day := by
  have hfirst : firstYear ≤ (year : Int) := by
    unfold firstYear
    omega
  have hlast : (year : Int) ≤ lastYear := by
    unfold lastYear
    omega
  simp only [isValid, Bool.and_eq_true, decide_eq_true_eq, hfirst, hlast, true_and, and_assoc,
    isDay_iff]

end Date

namespace Moment

theorem hasUniversalTime_of_year {year : Nat} (h : year ≤ 9999)
    (month day hour minute second : Nat) :
    hasUniversalTime { date := ⟨year, month, day⟩, hour, minute, second } = true := by
  have hfirst : (year : Int) ≠ firstYear := by
    unfold firstYear
    omega
  have hlast : (year : Int) ≠ lastYear := by
    unfold lastYear
    omega
  simp [hasUniversalTime, Date.isFirst, Date.isLast, hfirst, hlast, secondsPerDay]

theorem isValid_iff_isDay {year : Nat} (h : year ≤ 9999) (month day hour minute second : Nat) :
    isValid { date := ⟨year, month, day⟩, hour, minute, second } = true ↔
      IsDay year month day ∧ hour ≤ 23 ∧ minute ≤ 59 ∧ second ≤ 60 := by
  rw [isValid, hasUniversalTime_of_year h, Bool.and_true, Bool.and_eq_true,
    Date.isValid_iff_isDay h]
  simp only [isTimeOfDay, Bool.and_eq_true, decide_eq_true_eq, and_assoc]

end Moment

end SensorFrames.Timestamp
