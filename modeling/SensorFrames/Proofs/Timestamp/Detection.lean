import Mathlib.Data.List.Basic
import SensorFrames.Proofs.Text.Casing
import SensorFrames.Proofs.Timestamp.Calendar
import SensorFrames.Proofs.Timestamp.Written

/-!
Which written dates are taken for dates. Main statement: a date in digits, alone or with a time of
day behind it, is one just when the calendar has that day and the day that time.
-/

set_option autoImplicit false

namespace SensorFrames.Timestamp

open Text

section

variable {year month day hour minute second : Nat}
variable (hyear : year ≤ 9999) (hmonth : month ≤ 99) (hday : day ≤ 99)
variable (hhour : hour ≤ 99) (hminute : minute ≤ 99) (hsecond : second ≤ 99)

/-! ### Internet and mail -/

namespace Internet

include hyear hmonth hday in
theorem accepts_writtenDate : accepts (writtenDate year month day) = false := by
  have hend := readNumber_two (Nat.le_refl 2) hday []
  rw [List.append_nil] at hend
  rw [accepts, read, writtenDate, writtenTriple, List.append_assoc,
    readNumber_four (Nat.le_refl 4) hyear]
  dsimp only [Option.bind_eq_bind, Option.bind_some]
  rw [List.cons_append, skipped_cons, Option.bind_some, readNumber_two (Nat.le_refl 2) hmonth,
    Option.bind_some, skipped_cons, Option.bind_some, hend]
  rfl

include hyear hmonth hday hhour hminute hsecond in
theorem read_written {joint : Char} (hjoint : joint = 'T' ∨ joint = 't' ∨ joint = ' ')
    (zone : List Char) :
    read (writtenDate year month day ++ joint :: (writtenTime hour minute second ++ zone)) =
      (skipFraction zone).bind fun rest => (readZone rest).map fun r =>
        ({ date := ⟨year, month, day⟩, hour, minute, second, offset := r.1 }, r.2) := by
  have hpair : ∀ {n : Nat}, n ≤ 99 → ∀ rest, readNumber 2 2 (padded 2 n ++ rest) = some (n, rest) :=
    readNumber_two (Nat.le_refl 2)
  have htext : writtenDate year month day ++ joint :: (writtenTime hour minute second ++ zone) =
      padded 4 year ++ '-' :: (padded 2 month ++ '-' :: (padded 2 day ++ joint ::
        (padded 2 hour ++ ':' :: (padded 2 minute ++ ':' :: (padded 2 second ++ zone))))) := by
    simp [writtenDate, writtenTime, writtenTriple]
  -- One number after another: taken together they leave a tower of binds that `simp` walks thrice.
  rw [read, htext, readNumber_four (Nat.le_refl 4) hyear]
  dsimp only [Option.bind_eq_bind, Option.bind_some]
  rw [skipped_cons, Option.bind_some, hpair hmonth, Option.bind_some, skipped_cons,
    Option.bind_some, hpair hday, Option.bind_some]
  dsimp only
  rw [if_pos hjoint, hpair hhour, Option.bind_some, skipped_cons, Option.bind_some, hpair hminute,
    Option.bind_some, skipped_cons, Option.bind_some, hpair hsecond, Option.bind_some]
  simp only [Option.map_eq_bind]
  rfl

include hyear hmonth hday hhour hminute hsecond in
theorem accepts_local {joint : Char} (hjoint : joint = 'T' ∨ joint = 't' ∨ joint = ' ') :
    accepts (writtenDate year month day ++ joint :: writtenTime hour minute second) = false := by
  have hread := read_written hyear hmonth hday hhour hminute hsecond hjoint []
  rw [List.append_nil] at hread
  rw [accepts, hread]
  rfl

include hyear hmonth hday hhour hminute hsecond in
theorem accepts_universal {joint : Char} (hjoint : joint = 'T' ∨ joint = 't' ∨ joint = ' ') :
    accepts (writtenDate year month day ++ joint :: (writtenTime hour minute second ++ ['Z'])) =
      Moment.isValid { date := ⟨year, month, day⟩, hour, minute, second } := by
  rw [accepts, read_written hyear hmonth hday hhour hminute hsecond hjoint]
  rfl

end Internet

namespace Mail

theorem readWeekday_digit {c : Char} (hc : isDigit c = true) (rest : List Char) :
    readWeekday (c :: rest) = some (none, c :: rest) := by
  have hname : ∀ name ∈ weekdays, name.head? ≠ some c.toLower :=
    forall_digit (p := fun c => ∀ name ∈ weekdays, name.head? ≠ some c.toLower) (by decide) hc
  have hnone : readName weekdays (c :: rest) = none := by
    rw [readName, Option.map_eq_none_iff, List.findIdx?_eq_none_iff]
    intro name hmem
    exact beq_eq_false_iff_ne.mpr fun heq => hname name hmem (heq ▸ rfl)
  rw [readWeekday, hnone]

theorem readGap_digit {c : Char} (hc : isDigit c = true) (rest : List Char) :
    readGap (c :: rest) = none := by
  simp [readGap, isBlank_of_isDigit hc]

include hyear in
theorem accepts_writtenDate_append (tail : List Char) :
    accepts (writtenDate year month day ++ tail) = false := by
  have hlen : (padded 4 year).length = 4 := length_padded (by decide) (Nat.lt_succ_of_le hyear)
  have hdigits : ∀ c ∈ padded 4 year, isDigit c = true := fun c => isDigit_of_mem_padded
  rw [writtenDate, writtenTriple, List.append_assoc, List.append_assoc]
  generalize padded 4 year = digits at hlen hdigits
  obtain ⟨a, b, c, d, rfl⟩ := List.length_eq_four.mp hlen
  simp only [List.forall_mem_cons] at hdigits
  obtain ⟨ha, hb, hc, -⟩ := hdigits
  have hstart : ∀ rest, skipBlank (a :: rest) = a :: rest := fun rest => by
    simp [skipBlank, isBlank_of_isDigit ha]
  have hday : ∀ rest, readNumber 1 2 (a :: b :: rest) = some (numeral 10 [a, b], rest) :=
    fun rest => by simp [readNumber, digitsUpTo, ha, hb]
  rw [accepts, read, List.cons_append, hstart, readWeekday_digit ha]
  dsimp only [Option.bind_eq_bind, Option.bind_some, List.cons_append]
  rw [hstart, hday, Option.bind_some, readGap_digit hc]
  rfl

end Mail

/-! ### Detection -/

theorem isAccepted_iff (cs : List Char) :
    isAccepted cs = true ↔ Internet.accepts cs = true ∨ Mail.accepts cs = true ∨
      ∃ pattern ∈ Pattern.formats, Pattern.accepts pattern cs = true := by
  simp [isAccepted, Pattern.formats, or_assoc, or_and_right, exists_or]

include hyear hmonth hday in
theorem looksLikeDate_writtenDate_append {tail : List Char} (hslash : '/' ∉ tail)
    (hpoint : '.' ∉ tail) (hlast : ∀ c ∈ tail.getLast?, isBlank c = false) :
    looksLikeDate (String.ofList (writtenDate year month day ++ tail)) = true ↔
      Internet.accepts (writtenDate year month day ++ tail) = true ∨
        ∃ back ∈ Pattern.afterDate,
          Pattern.completes back { date := ⟨year, month, day⟩ } tail = true := by
  have hmark : (writtenDate year month day ++ tail).any isSeparator = true :=
    List.any_eq_true.mpr ⟨'-', by simp [writtenDate, writtenTriple], by decide⟩
  have htrimmed : trimmed (writtenDate year month day ++ tail) =
      writtenDate year month day ++ tail := by
    obtain ⟨c, rest, hcons, hc⟩ := padded_eq_cons 4 year
    refine trimmed_eq_self ?_ fun c hc => ?_
    · simp [writtenDate, writtenTriple, hcons, isBlank_of_isDigit hc]
    rw [List.getLast?_append, Option.mem_def, Option.or_eq_some_iff] at hc
    rcases hc with htail | ⟨-, hdate⟩
    · exact hlast c htail
    · exact isBlank_of_mem_writtenTriple (by decide) (List.mem_of_getLast? hdate)
  rw [looksLikeDate, looksLike, String.toList_ofList, hmark, htrimmed, Bool.true_or,
    Bool.true_and, isAccepted_iff, Pattern.formats_accept_iff hyear hmonth hday hslash hpoint,
    Mail.accepts_writtenDate_append hyear]
  simp

theorem mem_of_getLast?_writtenTime {joint c : Char} {zone : List Char}
    (h : c ∈ (joint :: (writtenTime hour minute second ++ zone)).getLast?) :
    c ∈ writtenTime hour minute second ++ zone := by
  obtain ⟨d, rest, hcons, -⟩ := padded_eq_cons 2 hour
  simp only [writtenTime, writtenTriple, hcons, List.cons_append, List.getLast?_cons_cons] at h ⊢
  exact List.mem_of_getLast? h

include hyear hmonth hday in
theorem looksLikeDate_writtenTime {joint : Char} (hjoint : joint = ' ' ∨ joint = 'T')
    {zone : List Char} (hzone : ∀ c ∈ zone, c = 'Z') :
    looksLikeDate (String.ofList (writtenDate year month day ++
        joint :: (writtenTime hour minute second ++ zone))) = true ↔
      Internet.accepts (writtenDate year month day ++
          joint :: (writtenTime hour minute second ++ zone)) = true ∨
        ∃ back ∈ Pattern.afterDate, Pattern.completes back { date := ⟨year, month, day⟩ }
          (joint :: (writtenTime hour minute second ++ zone)) = true := by
  have hother : ∀ c, c ∉ [' ', 'T', ':', 'Z'] → isDigit c = false →
      c ∉ joint :: (writtenTime hour minute second ++ zone) := by
    intro c hc hdigit h
    simp only [List.mem_cons, List.not_mem_nil, or_false, not_or] at hc
    rcases List.mem_cons.mp h with rfl | h
    · exact hjoint.elim hc.1 hc.2.1
    · rcases List.mem_append.mp h with htime | hmem
      · exact not_mem_writtenTriple hc.2.2.1 hdigit htime
      · exact hc.2.2.2 (hzone c hmem)
  have hlast : ∀ c ∈ (joint :: (writtenTime hour minute second ++ zone)).getLast?,
      isBlank c = false := by
    intro c hc
    rcases List.mem_append.mp (mem_of_getLast?_writtenTime hc) with htime | hmem
    · exact isBlank_of_mem_writtenTriple (by decide) htime
    · rw [hzone c hmem]
      decide
  exact looksLikeDate_writtenDate_append hyear hmonth hday (hother '/' (by decide) (by decide))
    (hother '.' (by decide) (by decide)) hlast

end

/-- A date in digits. The calendar decides, and with a time of day its range does too. -/
theorem looksLikeDate_written_iff {year month day hour minute second : Nat} (hyear : year ≤ 9999)
    (hmonth : month ≤ 99) (hday : day ≤ 99) (hhour : hour ≤ 99) (hminute : minute ≤ 99)
    (hsecond : second ≤ 99) :
    (looksLikeDate (String.ofList (writtenDate year month day)) = true ↔ IsDay year month day) ∧
    ∀ text ∈ [
      writtenDate year month day ++ ' ' :: writtenTime hour minute second,
      writtenDate year month day ++ 'T' :: writtenTime hour minute second,
      writtenDate year month day ++ 'T' :: (writtenTime hour minute second ++ ['Z'])],
      looksLikeDate (String.ofList text) = true ↔
        IsDay year month day ∧ hour ≤ 23 ∧ minute ≤ 59 ∧ second ≤ 60 := by
  have hvalid := Moment.isValid_iff_isDay hyear month day
  constructor
  · have hiff := looksLikeDate_writtenDate_append hyear hmonth hday
      (List.not_mem_nil : '/' ∉ []) List.not_mem_nil (by simp)
    rw [List.append_nil, Internet.accepts_writtenDate hyear hmonth hday,
      Pattern.completes_afterDate_nil, hvalid] at hiff
    simpa using hiff
  · have hlook := @looksLikeDate_writtenTime _ _ _ hour minute second hyear hmonth hday
    have hplain : ∀ c ∈ ([] : List Char), c = 'Z' := by simp
    have hzulu : ∀ c ∈ ['Z'], c = 'Z' := by simp
    intro text htext
    simp only [List.mem_cons, List.not_mem_nil, or_false] at htext
    rcases htext with rfl | rfl | rfl
    · have hiff := hlook (.inl rfl) hplain
      rw [List.append_nil, Internet.accepts_local hyear hmonth hday hhour hminute hsecond (by simp),
        Pattern.completes_afterDate_blank hhour hminute hsecond, hvalid] at hiff
      simpa using hiff
    · have hiff := hlook (.inr rfl) hplain
      rw [Pattern.completes_afterDate_mark hhour hminute hsecond (by simp), List.append_nil,
        Internet.accepts_local hyear hmonth hday hhour hminute hsecond (by simp), hvalid] at hiff
      simpa using hiff
    · have hiff := hlook (.inr rfl) hzulu
      rw [Pattern.completes_afterDate_mark hhour hminute hsecond (by simp),
        Internet.accepts_universal hyear hmonth hday hhour hminute hsecond (by simp),
        hvalid] at hiff
      simpa using hiff

/-- The full century 2000 has a leap day, which ends with a leap second here; 1900 has none. -/
theorem leap_days_told_apart :
    2000 ≤ 9999 ∧ 1900 ≤ 9999 ∧ 29 ≤ 99 ∧ 60 ≤ 99 ∧
      looksLikeDate "2000-02-29T23:59:60Z" = true ∧ looksLikeDate "1900-02-29" = false := by
  have hleap := (@looksLikeDate_written_iff 2000 2 29 23 59 60 (by decide) (by decide) (by decide)
    (by decide) (by decide) (by decide)).2 _ (List.mem_of_getElem? (i := 2) rfl)
  have hplain := (@looksLikeDate_written_iff 1900 2 29 0 0 0 (by decide) (by decide) (by decide)
    (by decide) (by decide) (by decide)).1
  refine ⟨by decide, by decide, by decide, by decide, ?_, ?_⟩
  · exact hleap.mpr ⟨.leapDay (by decide) (by decide), by decide, by decide, by decide⟩
  · refine Bool.eq_false_iff.mpr fun h => ?_
    have hday := hplain.mp h
    rw [isDay_iff] at hday
    exact absurd hday (by decide)

end SensorFrames.Timestamp
