import Mathlib.Data.List.TakeWhile
import SensorFrames.Text.Blank
import SensorFrames.Text.Lowercase

/-!
Texts that differ in padding or in the case of their Latin letters. Main statement: both come to the
same once they are trimmed and written in lower case.
-/

set_option autoImplicit false

namespace SensorFrames.Text

/-! ### Padding -/

theorem skipBlank_eq_nil_iff {cs : List Char} :
    skipBlank cs = [] ↔ ∀ c ∈ cs, isBlank c = true := List.dropWhile_eq_nil_iff

theorem skipBlank_append_of_ne_nil {cs : List Char} (h : skipBlank cs ≠ []) (ds : List Char) :
    skipBlank (cs ++ ds) = skipBlank cs ++ ds := by
  rw [skipBlank, List.dropWhile_append, if_neg (by simpa [skipBlank] using h)]
  rfl

theorem trimmed_pad {front back : List Char} (hfront : ∀ c ∈ front, isBlank c = true)
    (hback : ∀ c ∈ back, isBlank c = true) (cs : List Char) :
    trimmed (front ++ cs ++ back) = trimmed cs := by
  have hreverse : ∀ c ∈ back.reverse, isBlank c = true := fun c hc =>
    hback c (List.mem_reverse.mp hc)
  rw [trimmed, trimmed, List.append_assoc, skipBlank_append hfront]
  by_cases hcs : skipBlank cs = []
  · have hblank : skipBlank (cs ++ back) = [] := by
      rw [skipBlank_append (skipBlank_eq_nil_iff.mp hcs), skipBlank_eq_nil_iff]
      exact hback
    rw [hblank, hcs]
  · rw [skipBlank_append_of_ne_nil hcs, List.reverse_append, skipBlank_append hreverse]

theorem trim_pad {front back : String} (hfront : ∀ c ∈ front.toList, isBlank c = true)
    (hback : ∀ c ∈ back.toList, isBlank c = true) (s : String) :
    trim (front ++ s ++ back) = trim s := by
  rw [trim, trim, String.toList_append, String.toList_append, trimmed_pad hfront hback]

theorem skipBlank_eq_self {cs : List Char} (h : ∀ c ∈ cs.head?, isBlank c = false) :
    skipBlank cs = cs := by
  cases cs with
  | nil => rfl
  | cons c cs => simp [skipBlank, h c rfl]

theorem trimmed_eq_self {cs : List Char} (hfirst : ∀ c ∈ cs.head?, isBlank c = false)
    (hlast : ∀ c ∈ cs.getLast?, isBlank c = false) : trimmed cs = cs := by
  rw [trimmed, skipBlank_eq_self hfirst, skipBlank_eq_self (by simpa using hlast),
    List.reverse_reverse]

/-! ### Case -/

/-- The same text but for the case of Latin letters. -/
def SameLetters (s t : String) : Prop := s.toList.map Char.toLower = t.toList.map Char.toLower

theorem toLower_of_not_ascii {c : Char} (h : 0x80 ≤ c.toNat) : c.toLower = c := by
  refine dif_neg ?_
  rintro ⟨-, hle⟩
  have hcode : c.toNat ≤ 0x5A := UInt32.le_iff_toNat_le.mp hle
  omega

theorem toUpper_of_not_ascii {c : Char} (h : 0x80 ≤ c.toNat) : c.toUpper = c := by
  refine dif_neg ?_
  rintro ⟨-, hle⟩
  have hcode : c.toNat ≤ 0x7A := UInt32.le_iff_toNat_le.mp hle
  omega

theorem forall_ascii {p : Char → Prop} (h : ∀ n : Fin 0x80, p (Char.ofNat n)) {c : Char}
    (hc : c.toNat < 0x80) : p c := by
  simpa using h ⟨c.toNat, hc⟩

theorem apply_of_ascii {α : Type} {f : Char → α} {change : Char → Char}
    (hother : ∀ {c : Char}, 0x80 ≤ c.toNat → change c = c)
    (h : ∀ n : Fin 0x80, f (change (Char.ofNat n)) = f (Char.ofNat n)) (c : Char) :
    f (change c) = f c := by
  rcases Nat.lt_or_ge c.toNat 0x80 with hascii | hge
  · exact forall_ascii (p := fun c => f (change c) = f c) h hascii
  · rw [hother hge]

theorem apply_toLower {α : Type} {f : Char → α}
    (h : ∀ n : Fin 0x80, f (Char.ofNat n).toLower = f (Char.ofNat n)) (c : Char) :
    f c.toLower = f c := apply_of_ascii toLower_of_not_ascii h c

theorem apply_toUpper {α : Type} {f : Char → α}
    (h : ∀ n : Fin 0x80, f (Char.ofNat n).toUpper = f (Char.ofNat n)) (c : Char) :
    f c.toUpper = f c := apply_of_ascii toUpper_of_not_ascii h c

theorem toUpper_toLower (c : Char) : c.toLower.toUpper = c.toUpper :=
  apply_toLower (f := Char.toUpper) (by decide) c

theorem toLower_toUpper (c : Char) : c.toUpper.toLower = c.toLower :=
  apply_toUpper (f := Char.toLower) (by decide) c

theorem isBlank_toLower (c : Char) : isBlank c.toLower = isBlank c := apply_toLower (by decide) c

theorem lowerChar_toLower (c : Char) : lowerChar c.toLower = lowerChar c :=
  apply_toLower (by decide) c

theorem skipBlank_map_toLower (cs : List Char) :
    skipBlank (cs.map Char.toLower) = (skipBlank cs).map Char.toLower := by
  have hsame : isBlank ∘ Char.toLower = isBlank := funext isBlank_toLower
  rw [skipBlank, List.dropWhile_map, hsame, skipBlank]

theorem trimmed_map_toLower (cs : List Char) :
    trimmed (cs.map Char.toLower) = (trimmed cs).map Char.toLower := by
  simp only [trimmed, skipBlank_map_toLower, ← List.map_reverse]

theorem flatMap_lowerChar_map_toLower (cs : List Char) :
    (cs.map Char.toLower).flatMap lowerChar = cs.flatMap lowerChar := by
  rw [List.flatMap_map]
  exact congrArg (List.flatMap · cs) (funext lowerChar_toLower)

theorem lowercase_trim_congr {s t : String} (h : SameLetters s t) :
    lowercase (trim s) = lowercase (trim t) := by
  have hchars : ∀ u : String, lowercase (trim u) =
      String.ofList ((trimmed (u.toList.map Char.toLower)).flatMap lowerChar) := fun u => by
    rw [trimmed_map_toLower, flatMap_lowerChar_map_toLower, lowercase, toList_trim]
  rw [hchars, hchars, h]

/-! ### Final sigma -/

/-- A text in lower case. How a capital sigma is written may depend on what stands around it. -/
inductive IsLowercase : List Char → List Char → Prop where
  | nil : IsLowercase [] []
  | char (c : Char) {cs lowered : List Char} (h : IsLowercase cs lowered) :
      IsLowercase (c :: cs) (lowerChar c ++ lowered)
  | finalSigma {cs lowered : List Char} (h : IsLowercase cs lowered) :
      IsLowercase ('Σ' :: cs) ('ς' :: lowered)

theorem isLowercase_lowercase (s : String) : IsLowercase s.toList (lowercase s).toList := by
  rw [toList_lowercase]
  induction s.toList with
  | nil => exact .nil
  | cons c cs ih => exact .char c ih

theorem IsLowercase.eq_or_sigma {cs lowered : List Char} (h : IsLowercase cs lowered) :
    lowered = cs.flatMap lowerChar ∨ 'ς' ∈ lowered ∧ 'σ' ∈ cs.flatMap lowerChar := by
  induction h with
  | nil => exact Or.inl rfl
  | char c _ ih =>
    rw [List.flatMap_cons]
    rcases ih with rfl | ⟨hfinal, hmedial⟩
    · exact Or.inl rfl
    · exact Or.inr ⟨List.mem_append_right _ hfinal, List.mem_append_right _ hmedial⟩
  | finalSigma =>
    have hmedial : 'σ' ∈ lowerChar 'Σ' := by decide
    rw [List.flatMap_cons]
    exact Or.inr ⟨List.mem_cons_self, List.mem_append_left _ hmedial⟩

end SensorFrames.Text
