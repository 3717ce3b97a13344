import SensorFrames.Proofs.Timestamp.Pattern
import SensorFrames.Timestamp.Detect

/-!
Dates and times of day in digits, and the patterns that take them. Main statement: behind a date in
digits, a time of day is taken just when it is one that a day has.
-/

set_option autoImplicit false

namespace SensorFrames.Timestamp

open Text

def writtenTriple (separator : Char) (width first second third : Nat) : List Char :=
  padded width first ++ separator :: padded 2 second ++ separator :: padded 2 third

def writtenDate (year month day : Nat) : List Char := writtenTriple '-' 4 year month day

def writtenTime (hour minute second : Nat) : List Char := writtenTriple ':' 2 hour minute second

theorem mem_writtenTriple {separator c : Char} {width first second third : Nat}
    (h : c ∈ writtenTriple separator width first second third) :
    isDigit c = true ∨ c = separator := by
  simp only [writtenTriple, List.mem_append, List.mem_cons] at h
  rcases h with (hfirst | rfl | hsecond) | rfl | hthird
  · exact .inl (isDigit_of_mem_padded hfirst)
  · exact .inr rfl
  · exact .inl (isDigit_of_mem_padded hsecond)
  · exact .inr rfl
  · exact .inl (isDigit_of_mem_padded hthird)

theorem not_mem_writtenTriple {separator c : Char} (hseparator : c ≠ separator)
    (hdigit : isDigit c = false) {width first second third : Nat} :
    c ∉ writtenTriple separator width first second third := by
  intro h
  rcases mem_writtenTriple h with hc | hc
  · simp [hc] at hdigit
  · exact hseparator hc

theorem isBlank_of_mem_writtenTriple {separator c : Char} (hseparator : isBlank separator = false)
    {width first second third : Nat} (h : c ∈ writtenTriple separator width first second third) :
    isBlank c = false := by
  rcases mem_writtenTriple h with hc | rfl
  · exact isBlank_of_isDigit hc
  · exact hseparator

section

variable {year month day hour minute second : Nat}
variable (hyear : year ≤ 9999) (hmonth : month ≤ 99) (hday : day ≤ 99)
variable (hhour : hour ≤ 99) (hminute : minute ≤ 99) (hsecond : second ≤ 99)

namespace Pattern

def formats : List Pattern := universal ++ localTime ++ dates

/-- A time of day behind a separator, with any of the endings behind its seconds or minutes. -/
def clock (separator : Item) (afterSeconds afterMinutes : List Pattern) : List Pattern :=
  afterSeconds.map (separator :: seconds ++ ·) ++ afterMinutes.map (separator :: minutes ++ ·)

def afterDate : List Pattern :=
  [] :: clock .blanks [[], [.fraction], [.blanks, .offset]] [[]] ++
    clock (.literal 'T') [[], [.fraction], [.fraction, .offset]] [[], [.literal 'Z']]

theorem formats_cases : ∀ pattern ∈ formats,
    (∃ back ∈ afterDate, pattern = yearFirst '-' ++ back) ∨
      .literal '/' ∈ pattern ∨ .literal '.' ∈ pattern := by
  decide

theorem mem_formats : ∀ back ∈ afterDate, yearFirst '-' ++ back ∈ formats := by decide

/-- Whether the pattern takes the rest of a text, of which `m` was read so far. -/
def completes (pattern : Pattern) (m : Moment) (cs : List Char) : Bool :=
  match read pattern m cs with
  | some (m, []) => m.isValid
  | _ => false

theorem completes_append {front : Pattern} {m m' : Moment} {cs rest : List Char}
    (h : read front m cs = some (m', rest)) (back : Pattern) :
    completes (front ++ back) m cs = completes back m' rest := by
  rw [completes, read_append, h]
  rfl

theorem mem_of_completes {pattern : Pattern} {c : Char} (hc : .literal c ∈ pattern) {m : Moment}
    {cs : List Char} (h : completes pattern m cs = true) : c ∈ cs := by
  unfold completes at h
  split at h
  · exact mem_of_read hc ‹_›
  · contradiction

include hyear hmonth hday in
theorem read_writtenDate (m : Moment) (rest : List Char) :
    read (yearFirst '-') m (writtenDate year month day ++ rest) =
      some ({ m with date := ⟨year, month, day⟩ }, rest) := by
  simp [yearFirst, writtenDate, writtenTriple, read, Item.read, skipped, readYear_padded hyear,
    readPair_padded hmonth, readPair_padded hday, skipBlank_padded]

include hhour hminute in
theorem read_minutes (m : Moment) (second : Nat) (rest : List Char) :
    read minutes m (writtenTime hour minute second ++ rest) =
      some ({ m with hour, minute }, ':' :: padded 2 second ++ rest) := by
  simp [minutes, writtenTime, writtenTriple, read, Item.read, skipped, readPair_padded hhour,
    readPair_padded hminute]

include hhour hminute hsecond in
theorem read_seconds (m : Moment) (rest : List Char) :
    read seconds m (writtenTime hour minute second ++ rest) =
      some ({ m with hour, minute, second }, rest) := by
  rw [seconds, read_append, read_minutes hhour hminute]
  simp [read, Item.read, skipped, readPair_padded hsecond]

include hyear hmonth hday in
/-- Dashed dates leave the patterns made for them, the others having characters of their own. -/
theorem formats_accept_iff {tail : List Char} (hslash : '/' ∉ tail) (hpoint : '.' ∉ tail) :
    (∃ pattern ∈ formats, accepts pattern (writtenDate year month day ++ tail) = true) ↔
      ∃ back ∈ afterDate, completes back { date := ⟨year, month, day⟩ } tail = true := by
  have hback : ∀ back, accepts (yearFirst '-' ++ back) (writtenDate year month day ++ tail) =
      completes back { date := ⟨year, month, day⟩ } tail :=
    completes_append (read_writtenDate hyear hmonth hday {} tail)
  have hnot : ∀ c, c ≠ '-' → isDigit c = false → c ∉ tail →
      c ∉ writtenDate year month day ++ tail := fun c hdash hdigit htail hmem =>
    (List.mem_append.mp hmem).elim (not_mem_writtenTriple hdash hdigit) htail
  constructor
  · rintro ⟨pattern, hmem, haccepts⟩
    rcases formats_cases pattern hmem with ⟨back, hbackMem, rfl⟩ | hown | hown
    · exact ⟨back, hbackMem, hback back ▸ haccepts⟩
    · exact absurd (mem_of_completes hown haccepts) (hnot '/' (by decide) (by decide) hslash)
    · exact absurd (mem_of_completes hown haccepts) (hnot '.' (by decide) (by decide) hpoint)
  · rintro ⟨back, hmem, hcompletes⟩
    exact ⟨_, mem_formats back hmem, (hback back).trans hcompletes⟩

theorem completes_afterDate_nil {m : Moment} :
    (∃ back ∈ afterDate, completes back m [] = true) ↔ m.isValid = true := by
  have hcolon : ∀ back ∈ afterDate, back = [] ∨ .literal ':' ∈ back := by decide
  constructor
  · rintro ⟨back, hmem, hcompletes⟩
    rcases hcolon back hmem with rfl | hown
    · exact hcompletes
    · exact absurd (mem_of_completes hown hcompletes) List.not_mem_nil
  · exact fun h => ⟨[], List.mem_cons_self, h⟩

include hhour hminute hsecond in
theorem clock_completes_iff {separator : Item} {m : Moment} {cs zone : List Char}
    (h : separator.read m cs = some (m, writtenTime hour minute second ++ zone))
    (afterSeconds afterMinutes : List Pattern) :
    (∃ back ∈ clock separator afterSeconds afterMinutes, completes back m cs = true) ↔
      (∃ back ∈ afterSeconds, completes back { m with hour, minute, second } zone = true) ∨
        ∃ back ∈ afterMinutes,
          completes back { m with hour, minute } (':' :: padded 2 second ++ zone) = true := by
  have hread : ∀ front, read (separator :: front) m cs =
      read front m (writtenTime hour minute second ++ zone) := by
    intro front
    simp [read, h]
  have hseconds := completes_append
    ((hread seconds).trans (read_seconds hhour hminute hsecond m zone))
  have hminutes := completes_append
    ((hread minutes).trans (read_minutes hhour hminute m second zone))
  simp only [clock, List.mem_append, List.mem_map, or_and_right, exists_or,
    exists_exists_and_eq_and, hseconds, hminutes]

theorem clock_fails {separator : Item} {m : Moment} {cs : List Char}
    (h : read [separator, .hour] m cs = none) (afterSeconds afterMinutes : List Pattern) :
    ¬ ∃ back ∈ clock separator afterSeconds afterMinutes, completes back m cs = true := by
  have hhour : ∀ rest, completes ([separator, .hour] ++ rest) m cs = false := by
    intro rest
    rw [completes, read_append, h]
    rfl
  rintro ⟨back, hmem, hcompletes⟩
  rcases List.mem_append.mp hmem with hmem | hmem
  · obtain ⟨rest, -, rfl⟩ := List.mem_map.mp hmem
    exact Bool.false_ne_true ((hhour (seconds.tail ++ rest)).symm.trans hcompletes)
  · obtain ⟨rest, -, rfl⟩ := List.mem_map.mp hmem
    exact Bool.false_ne_true ((hhour (minutes.tail ++ rest)).symm.trans hcompletes)

include hhour hminute hsecond in
theorem completes_afterDate_blank {m : Moment} :
    (∃ back ∈ afterDate, completes back m (' ' :: writtenTime hour minute second) = true) ↔
      Moment.isValid { m with hour, minute, second } = true := by
  have hread : Item.blanks.read m (' ' :: writtenTime hour minute second) =
      some (m, writtenTime hour minute second ++ []) := by
    rw [List.append_nil, writtenTime, writtenTriple, List.append_assoc]
    exact congrArg (fun rest => some (m, rest)) (skipBlank_padded 2 hour _)
  have hother : read [.literal 'T', .hour] m (' ' :: writtenTime hour minute second) = none := rfl
  simp only [afterDate, List.cons_append, List.mem_cons, List.mem_append, or_and_right, exists_or,
    exists_eq_left, clock_completes_iff hhour hminute hsecond hread, clock_fails hother, or_false]
  have hoffset : readOffset true skipColons [] = none := rfl
  simp [completes, read, Item.read, skipFraction, skipBlank, hoffset]

include hhour hminute hsecond in
theorem completes_afterDate_mark {m : Moment} {zone : List Char} (hzone : zone ∈ [[], ['Z']]) :
    (∃ back ∈ afterDate,
        completes back m ('T' :: (writtenTime hour minute second ++ zone)) = true) ↔
      zone = [] ∧ Moment.isValid { m with hour, minute, second } = true := by
  have hread : (Item.literal 'T').read m ('T' :: (writtenTime hour minute second ++ zone)) =
      some (m, writtenTime hour minute second ++ zone) := rfl
  have hother : read [.blanks, .hour] m ('T' :: (writtenTime hour minute second ++ zone)) = none :=
    rfl
  simp only [afterDate, List.cons_append, List.mem_cons, List.mem_append, or_and_right, exists_or,
    exists_eq_left, clock_completes_iff hhour hminute hsecond hread, clock_fails hother, false_or]
  have hoffset : ∀ zone ∈ [[], ['Z']], readOffset true skipColons (skipBlank zone) = none := by
    decide
  have hnone := hoffset zone hzone
  simp only [List.mem_cons, List.not_mem_nil, or_false] at hzone
  rcases hzone with rfl | rfl <;> simp [completes, read, Item.read, skipped, skipFraction, hnone]

end Pattern

end

end SensorFrames.Timestamp
