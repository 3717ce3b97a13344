import SensorFrames.Proofs.Text.Decimal
import SensorFrames.Settings.Basic

/-!
Numbers in the texts of settings and addresses. Main statement: a text reads as one just when it has
digits, with at most a plus before them, and they are worth a number of the range.
-/

set_option autoImplicit false

namespace SensorFrames

open Text (isDigit digitValue numeral)

/-- A number in ASCII digits, with at most a plus before them. -/
def IsDecimal (s : String) (n : Nat) : Prop :=
  ∃ sign digits, s.toList = sign ++ digits ∧ (sign = [] ∨ sign = ['+']) ∧ digits ≠ [] ∧
    (∀ c ∈ digits, isDigit c = true) ∧ n = Nat.ofDigits 10 (digits.reverse.map digitValue)

theorem isDecimal_toDigits (n : Nat) : IsDecimal (String.ofList (Nat.toDigits 10 n)) n := by
  have hdigits : ∀ c ∈ Nat.toDigits 10 n, isDigit c = true := fun _ => Text.isDigit_of_mem_toDigits
  have hworth := (Text.numeral_toDigits n).symm.trans (Text.numeral_eq_ofDigits hdigits)
  exact ⟨[], _, String.toList_ofList, .inl rfl, Nat.toDigits_ne_nil, hdigits, hworth⟩

def withoutPlus : List Char → List Char
  | '+' :: rest => rest
  | cs => cs

theorem exists_sign (cs : List Char) :
    ∃ sign, cs = sign ++ withoutPlus cs ∧ (sign = [] ∨ sign = ['+']) := by
  unfold withoutPlus
  split
  · exact ⟨['+'], rfl, .inr rfl⟩
  · exact ⟨[], rfl, .inl rfl⟩

theorem withoutPlus_append {sign digits : List Char} (hsign : sign = [] ∨ sign = ['+'])
    (hdigits : ∀ c ∈ digits, isDigit c = true) : withoutPlus (sign ++ digits) = digits := by
  rcases hsign with rfl | rfl
  · unfold withoutPlus
    split
    · rename_i rest hplus
      rw [List.nil_append] at hplus
      exact absurd (hdigits '+' (by simp [hplus])) (by decide)
    · rfl
  · rfl

theorem readBelow_eq (bound : Nat) (s : String) :
    readBelow bound s =
      if withoutPlus s.toList ≠ [] ∧ (withoutPlus s.toList).all isDigit ∧
          numeral 10 (withoutPlus s.toList) < bound then
        some (numeral 10 (withoutPlus s.toList))
      else none := rfl

theorem readBelow_eq_some {bound n : Nat} {s : String} :
    readBelow bound s = some n ↔ IsDecimal s n ∧ n < bound := by
  rw [readBelow_eq, Option.ite_none_right_eq_some, Option.some.injEq]
  constructor
  · rintro ⟨⟨hne, hall, hlt⟩, rfl⟩
    obtain ⟨sign, hs, hsign⟩ := exists_sign s.toList
    have hdigits := List.all_eq_true.mp hall
    exact ⟨⟨sign, _, hs, hsign, hne, hdigits, Text.numeral_eq_ofDigits hdigits⟩, hlt⟩
  · rintro ⟨⟨sign, digits, hs, hsign, hne, hdigits, rfl⟩, hlt⟩
    rw [hs, withoutPlus_append hsign hdigits, Text.numeral_eq_ofDigits hdigits]
    exact ⟨⟨hne, List.all_eq_true.mpr hdigits, hlt⟩, rfl⟩

theorem isSome_readBelow {bound : Nat} {s : String} :
    (readBelow bound s).isSome = true ↔ ∃ n < bound, IsDecimal s n := by
  simp only [Option.isSome_iff_exists, readBelow_eq_some, and_comm]

theorem word_eq_some {α : Type} {ofNat : Nat → α} {toNat : α → Nat} {bound : Nat}
    (hword : ∀ a, toNat a < bound ∧ ofNat (toNat a) = a) (hnat : ∀ n < bound, toNat (ofNat n) = n)
    {s : String} {a : α} : (readBelow bound s).map ofNat = some a ↔ IsDecimal s (toNat a) := by
  rw [Option.map_eq_some_iff]
  constructor
  · rintro ⟨k, hk, rfl⟩
    obtain ⟨hdecimal, hlt⟩ := readBelow_eq_some.mp hk
    rwa [hnat k hlt]
  · exact fun h => ⟨toNat a, readBelow_eq_some.mpr ⟨h, (hword a).1⟩, (hword a).2⟩

theorem readPortNumber_eq_some {s : String} {n : UInt16} :
    readPortNumber s = some n ↔ IsDecimal s n.toNat :=
  word_eq_some (fun a => ⟨a.toNat_lt, UInt16.ofNat_toNat⟩) fun _ => UInt16.toNat_ofNat_of_lt'

theorem readLimit_eq_some {s : String} {n : UInt64} :
    readLimit s = some n ↔ IsDecimal s n.toNat :=
  word_eq_some (fun a => ⟨a.toNat_lt, UInt64.ofNat_toNat⟩) fun _ => UInt64.toNat_ofNat_of_lt'

end SensorFrames
