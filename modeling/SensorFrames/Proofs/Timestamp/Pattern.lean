import SensorFrames.Proofs.Text.Decimal
import SensorFrames.Timestamp.Pattern

/-!
How patterns read. Main statements: a pattern takes its parts off the front of a text, so it never
accepts one in which a character of its own is missing, and what decimals of a fixed width write is
what the items for numbers read.
-/

set_option autoImplicit false

namespace SensorFrames

namespace Text

theorem forall_digit {p : Char → Prop} (h : ∀ n : Fin 10, p (Char.ofNat (0x30 + n))) {c : Char}
    (hc : isDigit c = true) : p c := by
  simp only [isDigit, Bool.and_eq_true, decide_eq_true_eq, Char.le_def] at hc
  have hlow : 0x30 ≤ c.toNat := UInt32.le_iff_toNat_le.mp hc.1
  have hhigh : c.toNat ≤ 0x39 := UInt32.le_iff_toNat_le.mp hc.2
  have hp := h ⟨c.toNat - 0x30, by omega⟩
  simp only [Nat.add_sub_of_le hlow, Char.ofNat_toNat] at hp
  exact hp

theorem isBlank_of_isDigit {c : Char} (h : isDigit c = true) : isBlank c = false :=
  forall_digit (p := fun c => isBlank c = false) (by decide) h

theorem skipped_cons (c : Char) (rest : List Char) : skipped c (c :: rest) = some rest :=
  skipped_eq_some.mpr rfl

theorem padded_eq_cons (width n : Nat) :
    ∃ c rest, padded width n = c :: rest ∧ isDigit c = true := by
  have hne : padded width n ≠ [] := by simp [padded, List.leftpad, Nat.toDigits_ne_nil]
  obtain ⟨c, rest, h⟩ := List.exists_cons_of_ne_nil hne
  exact ⟨c, rest, h, isDigit_of_mem_padded (h ▸ List.mem_cons_self)⟩

theorem skipBlank_padded (width n : Nat) (rest : List Char) :
    skipBlank (padded width n ++ rest) = padded width n ++ rest := by
  obtain ⟨c, tail, h, hc⟩ := padded_eq_cons width n
  simp [h, skipBlank, isBlank_of_isDigit hc]

end Text

namespace Timestamp

open Text

/-! ### Numbers -/

theorem digitsUpTo_append {digits : List Char} (h : ∀ c ∈ digits, isDigit c = true) {most : Nat}
    (hmost : most ≤ digits.length) (rest : List Char) :
    digitsUpTo most (digits ++ rest) = (digits.take most, digits.drop most ++ rest) := by
  induction most generalizing digits with
  | zero => rfl
  | succ most ih =>
    cases digits with
    | nil => exact absurd hmost (Nat.not_succ_le_zero most)
    | cons c digits =>
      have hc : isDigit c = true := h c List.mem_cons_self
      have htail := ih (fun d hd => h d (List.mem_cons_of_mem c hd)) (Nat.le_of_succ_le_succ hmost)
      simp [digitsUpTo, hc, htail]

theorem readNumber_padded {least width n : Nat} (hleast : least ≤ width) (hwidth : 0 < width)
    (h : n < 10 ^ width) (rest : List Char) :
    readNumber least width (padded width n ++ rest) = some (n, rest) := by
  have hlen := length_padded hwidth h
  have hdigits := digitsUpTo_append (fun c => isDigit_of_mem_padded) hlen.ge rest
  rw [List.take_of_length_le hlen.le, List.drop_of_length_le hlen.le] at hdigits
  simp only [readNumber, hdigits, hlen, numeral_padded]
  rw [if_neg (Nat.not_lt.mpr hleast)]
  rfl

theorem readNumber_two {least n : Nat} (hleast : least ≤ 2) (h : n ≤ 99) (rest : List Char) :
    readNumber least 2 (padded 2 n ++ rest) = some (n, rest) :=
  readNumber_padded hleast (by decide) (Nat.lt_succ_of_le h) rest

theorem readNumber_four {least n : Nat} (hleast : least ≤ 4) (h : n ≤ 9999) (rest : List Char) :
    readNumber least 4 (padded 4 n ++ rest) = some (n, rest) :=
  readNumber_padded hleast (by decide) (Nat.lt_succ_of_le h) rest

theorem readPair_padded {n : Nat} (h : n ≤ 99) (rest : List Char) :
    readPair (padded 2 n ++ rest) = some (n, rest) := by
  rw [readPair, skipBlank_padded]
  exact readNumber_two (by decide) h rest

theorem readYear_padded {n : Nat} (h : n ≤ 9999) (rest : List Char) :
    readYear (padded 4 n ++ rest) = some ((n : Int), rest) := by
  obtain ⟨c, tail, hcons, hc⟩ := padded_eq_cons 4 n
  have hunsigned : ∀ sign, isDigit sign = false →
      ∀ rest', padded 4 n ++ rest = sign :: rest' → False := by
    intro sign hsign rest' heq
    rw [hcons, List.cons_append, List.cons.injEq] at heq
    simp [heq.1 ▸ hc] at hsign
  rw [readYear.eq_3 _ (hunsigned '-' (by decide)) (hunsigned '+' (by decide)),
    readNumber_four (by decide) h]
  rfl

/-! ### What a pattern takes -/

/-- What the reader leaves is an end of the text. -/
def TakesFront {α : Type} (reader : Reader α) : Prop :=
  ∀ cs x rest, reader cs = some (x, rest) → rest <:+ cs

namespace TakesFront

theorem of_map {α β : Type} {reader : Reader α} (h : TakesFront reader)
    {f : α × List Char → β × List Char} {cs : List Char} {x : β} {rest : List Char}
    (hread : (reader cs).map f = some (x, rest)) (hf : ∀ r, (f r).2 = r.2) : rest <:+ cs := by
  obtain ⟨r, hr, heq⟩ := Option.map_eq_some_iff.mp hread
  obtain rfl : r.2 = rest := by rw [← hf r, heq]
  exact h cs r.1 r.2 hr

theorem afterBlanks {α : Type} {reader : Reader α} (h : TakesFront reader) :
    TakesFront fun cs => reader (skipBlank cs) :=
  fun _ x rest hread => (h _ x rest hread).trans (List.dropWhile_suffix _)

theorem number (least most : Nat) : TakesFront (readNumber least most) := by
  have hdigits : ∀ most cs, (digitsUpTo most cs).2 <:+ cs := by
    intro most cs
    induction cs generalizing most with
    | nil => cases most <;> exact List.suffix_rfl
    | cons c cs ih =>
      cases most with
      | zero => exact List.suffix_rfl
      | succ most =>
        unfold digitsUpTo
        split
        · exact (ih most).trans (List.suffix_cons c cs)
        · exact List.suffix_rfl
  intro cs x rest hread
  simp only [readNumber, Option.ite_none_left_eq_some, Option.some.injEq, Prod.mk.injEq] at hread
  exact hread.2.2 ▸ hdigits most cs

theorem longNumber (least : Nat) : TakesFront (readLongNumber least) :=
  fun cs => number least cs.length cs

theorem year : TakesFront readYear := by
  intro cs x rest hread
  unfold readYear at hread
  split at hread
  · exact ((longNumber 1).of_map hread fun _ => rfl).trans (List.suffix_cons _ _)
  · exact ((longNumber 1).of_map hread fun _ => rfl).trans (List.suffix_cons _ _)
  · exact (number 1 4).of_map hread fun _ => rfl

theorem pair : TakesFront readPair := (number 1 2).afterBlanks

theorem halfDay : TakesFront readHalfDay := by
  intro cs x rest hread
  unfold readHalfDay at hread
  split at hread
  · rename_i a m tail
    obtain rfl : tail = rest := by
      split at hread <;> grind
    exact (List.suffix_cons m tail).trans (List.suffix_cons a _)
  · contradiction

theorem twoDigits : TakesFront Timestamp.twoDigits := by
  intro cs x rest hread
  unfold Timestamp.twoDigits at hread
  split at hread
  · rename_i a b tail
    obtain rfl : tail = rest := by grind
    exact (List.suffix_cons b tail).trans (List.suffix_cons a _)
  · contradiction

theorem offset {typographic : Bool} {separator : List Char → Option (List Char)}
    (hseparator : ∀ cs rest, separator cs = some rest → rest <:+ cs) :
    TakesFront (readOffset typographic separator) := by
  intro cs x rest hread
  cases cs with
  | nil => contradiction
  | cons c tail =>
    -- Either sign is followed by the same parts.
    suffices h : ∃ sign : Int, ((Timestamp.twoDigits tail).bind fun hours =>
        (separator hours.2).bind fun between => (Timestamp.twoDigits between).bind fun minutes =>
          if minutes.1 < 60 then
            some (sign * (hours.1 * 3600 + minutes.1 * 60), minutes.2)
          else none) = some (x, rest) by
      obtain ⟨sign, h⟩ := h
      simp only [Option.bind_eq_some_iff, Option.ite_none_right_eq_some, Option.some.injEq,
        Prod.mk.injEq] at h
      obtain ⟨hours, hhours, between, hbetween, minutes, hminutes, -, -, rfl⟩ := h
      have hclock : minutes.2 <:+ hours.2 :=
        (twoDigits _ _ _ hminutes).trans (hseparator _ _ hbetween)
      exact (hclock.trans (twoDigits _ _ _ hhours)).trans (List.suffix_cons c tail)
    unfold readOffset at hread
    dsimp only at hread
    split at hread
    · exact ⟨1, hread⟩
    · split at hread
      · exact ⟨-1, hread⟩
      · contradiction

end TakesFront

theorem skipFraction_suffix {cs rest : List Char} (h : skipFraction cs = some rest) :
    rest <:+ cs := by
  unfold skipFraction at h
  split at h
  · rename_i c tail
    obtain rfl : tail.dropWhile isDigit = rest := by grind
    exact (List.dropWhile_suffix _).trans ((List.suffix_cons c tail).trans (List.suffix_cons _ _))
  · contradiction
  · exact Option.some.inj h ▸ List.suffix_rfl

theorem skipColons_suffix {cs rest : List Char} (h : skipColons cs = some rest) : rest <:+ cs :=
  Option.some.inj h ▸ List.dropWhile_suffix _

namespace Item

theorem read_suffix {item : Item} {m m' : Moment} {cs rest : List Char}
    (h : item.read m cs = some (m', rest)) : rest <:+ cs := by
  cases item with
  | year => exact TakesFront.year.afterBlanks.of_map h fun _ => rfl
  | month | day | hour | minute | second => exact TakesFront.pair.of_map h fun _ => rfl
  | hourOfTwelve =>
    simp only [read, Option.bind_eq_bind, Option.bind_eq_some_iff] at h
    obtain ⟨⟨n, tail⟩, hpair, hrest⟩ := h
    obtain rfl : tail = rest := by grind
    exact TakesFront.pair _ _ _ hpair
  | fraction =>
    obtain ⟨tail, htail, heq⟩ := Option.map_eq_some_iff.mp h
    exact (Prod.mk.inj heq).2 ▸ skipFraction_suffix htail
  | halfDay => exact TakesFront.halfDay.of_map h fun _ => rfl
  | offset =>
    exact (TakesFront.offset fun _ _ => skipColons_suffix).afterBlanks.of_map h fun _ => rfl
  | blanks => exact (Prod.mk.inj (Option.some.inj h)).2 ▸ List.dropWhile_suffix _
  | literal c =>
    obtain ⟨tail, htail, heq⟩ := Option.map_eq_some_iff.mp h
    rw [skipped_eq_some.mp htail, ← (Prod.mk.inj heq).2]
    exact List.suffix_cons c tail

end Item

namespace Pattern

theorem mem_of_read {pattern : Pattern} {c : Char} (hc : .literal c ∈ pattern) {m : Moment}
    {cs : List Char} {r : Moment × List Char} (h : read pattern m cs = some r) : c ∈ cs := by
  induction pattern generalizing m cs with
  | nil => contradiction
  | cons item pattern ih =>
    simp only [read, Option.bind_eq_bind, Option.bind_eq_some_iff] at h
    obtain ⟨⟨m', rest⟩, hitem, hrest⟩ := h
    rcases List.mem_cons.mp hc with rfl | hc
    · obtain ⟨tail, htail, -⟩ := Option.map_eq_some_iff.mp hitem
      rw [skipped_eq_some.mp htail]
      exact List.mem_cons_self
    · exact (Item.read_suffix hitem).subset (ih hc hrest)

theorem read_append (front back : Pattern) (m : Moment) (cs : List Char) :
    read (front ++ back) m cs = (read front m cs).bind fun r => read back r.1 r.2 := by
  induction front generalizing m cs with
  | nil => rfl
  | cons item front ih =>
    simp only [List.cons_append, read, Option.bind_eq_bind, Option.bind_assoc, ih]

end Pattern

end Timestamp

end SensorFrames
