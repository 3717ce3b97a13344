import Mathlib.Data.List.Induction
import Mathlib.Data.Nat.Digits.Defs
import SensorFrames.Text.Reader

/-!
Decimals. Main statements: the digits of a number read back as it, also with zeros before them, and
any digits are read as what they are worth at their places.
-/

set_option autoImplicit false

namespace SensorFrames.Text

theorem hexDigitValue?_digitChar {d : Nat} (h : d < 10) :
    hexDigitValue? (Nat.digitChar d) = some d := by
  have hall : ∀ d : Fin 10, hexDigitValue? (Nat.digitChar d) = some d.val := by decide
  exact hall ⟨d, h⟩

theorem numeral_concat (base : Nat) (cs : List Char) (c : Char) :
    numeral base (cs ++ [c]) = base * numeral base cs + (hexDigitValue? c).getD 0 := by
  simp [numeral]

theorem numeral_toDigits (n : Nat) : numeral 10 (Nat.toDigits 10 n) = n := by
  induction n using Nat.strongRecOn with
  | ind n ih =>
    by_cases h : n < 10
    · rw [Nat.toDigits_of_lt_base h]
      simp [numeral, hexDigitValue?_digitChar h]
    · have hmod : n % 10 < 10 := Nat.mod_lt _ (by decide)
      rw [Nat.toDigits_of_base_le (by decide) (by omega), numeral_concat, ih (n / 10) (by omega),
        hexDigitValue?_digitChar hmod, Option.getD_some]
      exact Nat.div_add_mod n 10

theorem isDigit_of_mem_toDigits {n : Nat} {c : Char} (h : c ∈ Nat.toDigits 10 n) :
    isDigit c = true := by
  have hc := Nat.isDigit_of_mem_toDigits (by decide) (by decide) h
  simpa [Char.isDigit, isDigit, Char.le_def] using hc

theorem numeral_eq_ofDigits {digits : List Char} (h : ∀ c ∈ digits, isDigit c = true) :
    numeral 10 digits = Nat.ofDigits 10 (digits.reverse.map digitValue) := by
  induction digits using List.reverseRecOn with
  | nil => rfl
  | append_singleton digits c ih =>
    have hc : isDigit c = true := h c (by simp)
    have hdigits := ih fun d hd => h d (List.mem_append_left _ hd)
    rw [numeral_concat, hdigits, hexDigitValue?, if_pos hc, List.reverse_concat, List.map_cons,
      Nat.ofDigits_cons, Option.getD_some]
    exact Nat.add_comm _ _

/-! ### Zeros in front -/

/-- The decimal of a number, with zeros before it up to the width. -/
def padded (width n : Nat) : List Char := (Nat.toDigits 10 n).leftpad width '0'

theorem isDigit_of_mem_padded {width n : Nat} {c : Char} (h : c ∈ padded width n) :
    isDigit c = true := by
  rw [padded, List.leftpad, List.mem_append] at h
  rcases h with hzero | hdigit
  · rw [(List.mem_replicate.mp hzero).2]
    rfl
  · exact isDigit_of_mem_toDigits hdigit

theorem length_padded {width n : Nat} (hwidth : 0 < width) (h : n < 10 ^ width) :
    (padded width n).length = width := by
  have hlen := (Nat.length_toDigits_le_iff (by decide) hwidth).mpr h
  rw [padded, List.length_leftpad, Nat.max_eq_left hlen]

theorem numeral_padded (width n : Nat) : numeral 10 (padded width n) = n := by
  have hzeros : ∀ k, numeral 10 (List.replicate k '0') = 0 := by
    intro k
    induction k with
    | zero => rfl
    | succ k ih => rw [List.replicate_succ', numeral_concat, ih]; rfl
  have hstart := hzeros (width - (Nat.toDigits 10 n).length)
  rw [numeral] at hstart
  rw [padded, List.leftpad, numeral, List.foldl_append, hstart]
  exact numeral_toDigits n

end SensorFrames.Text
