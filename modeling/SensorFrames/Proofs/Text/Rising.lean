import Mathlib.Data.List.Sort
import Mathlib.Data.String.Basic
import SensorFrames.Text.Ordered
import SensorFrames.Text.Percent

/-!
Texts in the order of their bytes. Main statements: the order of texts is the lexicographic one of
their UTF-8 forms, and there is only one list of texts in rising order that has given members.
-/

set_option autoImplicit false

namespace SensorFrames.Text

open Percent (utf8)

/-! ### Bytes -/

theorem ofNat_cons_lt {m n : Nat} (hm : m < UInt8.size) (hn : n < UInt8.size)
    (rest rest' : List UInt8) :
    UInt8.ofNat m :: rest < UInt8.ofNat n :: rest' ↔ m < n ∨ m = n ∧ rest < rest' := by
  rw [List.cons_lt_cons_iff, UInt8.lt_iff_toNat_lt, ← UInt8.toNat_inj,
    UInt8.toNat_ofNat_of_lt' hm, UInt8.toNat_ofNat_of_lt' hn]

theorem lt_of_four_digits {v w : Nat} (hw : w < 0x110000) (h : v < w) :
    v / 262144 % 8 < w / 262144 % 8 ∨ v / 262144 % 8 = w / 262144 % 8 ∧
      (v / 4096 % 64 < w / 4096 % 64 ∨ v / 4096 % 64 = w / 4096 % 64 ∧
        (v / 64 % 64 < w / 64 % 64 ∨ v / 64 % 64 = w / 64 % 64 ∧ v % 64 < w % 64)) := by
  have hsplit : ∀ n, n / 4096 = n / 64 / 64 ∧ n / 262144 = n / 64 / 4096 := by omega
  rw [(hsplit v).1, (hsplit v).2, (hsplit w).1, (hsplit w).2]
  rcases Nat.lt_or_ge (v / 64) (w / 64) with hlt | hge
  · have hbound : w / 64 < 0x4400 := by omega
    generalize v / 64 = x at *
    generalize w / 64 = y at *
    omega
  · have heq : v / 64 = w / 64 := by omega
    have hlast : v % 64 < w % 64 := by omega
    simp [heq, hlast]

/-- The bytes of a character decide, whatever follows them: a longer form begins with a greater
byte, and forms of one length hold the code point in digits. -/
theorem encodeChar_lt {c d : Char} (h : c < d) (rest rest' : List UInt8) :
    String.utf8EncodeChar c ++ rest < String.utf8EncodeChar d ++ rest' := by
  have hlt : c.val.toNat < d.val.toNat := UInt32.lt_iff_toNat_lt.mp (Char.lt_def.mp h)
  have hd : d.val.toNat < 0x110000 := by
    rcases d.valid with hd | hd <;> omega
  have hsize : UInt8.size = 256 := rfl
  unfold String.utf8EncodeChar
  generalize c.val.toNat = v at *
  generalize d.val.toNat = w at *
  dsimp only
  rcases Nat.lt_or_ge 0xFFFF v with hfour | hfewer
  · rw [if_neg (by omega), if_neg (by omega), if_neg (by omega), if_neg (by omega),
      if_neg (by omega), if_neg (by omega)]
    simp (disch := omega) only [List.cons_append, List.nil_append, ofNat_cons_lt,
      Nat.add_lt_add_iff_right, Nat.add_right_cancel_iff]
    have hdigits := lt_of_four_digits hd hlt
    tauto
  · split_ifs <;>
      simp (disch := omega) only [List.cons_append, List.nil_append, ofNat_cons_lt] <;>
      omega

theorem utf8EncodeChar_ne_nil (c : Char) : String.utf8EncodeChar c ≠ [] := by
  unfold String.utf8EncodeChar
  dsimp only
  split_ifs <;> simp

theorem utf8_lt_utf8_iff {s t : String} : utf8 s < utf8 t ↔ s < t := by
  have hmono : ∀ {s t : String}, s < t → utf8 s < utf8 t := by
    intro s t h
    rw [String.lt_iff_toList_lt] at h
    unfold utf8
    generalize s.toList = cs at h
    generalize t.toList = ds at h
    induction cs generalizing ds with
    | nil =>
      cases ds with
      | nil => exact absurd h (List.lt_irrefl [])
      | cons d ds =>
        rw [List.flatMap_nil, List.flatMap_cons]
        obtain ⟨b, bytes, hbytes⟩ := List.exists_cons_of_ne_nil (utf8EncodeChar_ne_nil d)
        rw [hbytes]
        exact List.nil_lt_cons _ _
    | cons c cs ih =>
      cases ds with
      | nil => exact absurd h (List.not_lt_nil _)
      | cons d ds =>
        rw [List.flatMap_cons, List.flatMap_cons]
        rcases List.cons_lt_cons_iff.mp h with hlt | ⟨rfl, htail⟩
        · exact encodeChar_lt hlt _ _
        · exact List.append_left_lt (ih ds htail)
  refine ⟨fun h => ?_, hmono⟩
  rcases lt_trichotomy s t with hlt | rfl | hgt
  · exact hlt
  · exact absurd h (List.lt_irrefl _)
  · exact absurd h (List.lt_asymm (hmono hgt))

/-! ### Lists in rising order -/

/-- Each text comes before those that follow it, by their bytes; so none stands there twice. -/
def Rising (texts : List String) : Prop := texts.Pairwise fun s t => utf8 s < utf8 t

theorem rising_iff {texts : List String} : Rising texts ↔ texts.Pairwise (· < ·) := by
  simp only [Rising, utf8_lt_utf8_iff]

theorem Rising.insertOrdered {texts : List String} (h : Rising texts) (s : String) :
    Rising (insertOrdered s texts) := by
  rw [rising_iff] at h ⊢
  induction texts with
  | nil => simp [Text.insertOrdered]
  | cons t rest ih =>
    obtain ⟨ht, hrest⟩ := List.pairwise_cons.mp h
    unfold Text.insertOrdered
    split
    · exact h
    · rename_i hne
      split
      · rename_i hlt
        refine List.pairwise_cons.mpr ⟨fun x hx => ?_, h⟩
        rcases List.mem_cons.mp hx with rfl | hx
        · exact hlt
        · exact hlt.trans (ht x hx)
      · rename_i hnlt
        refine List.pairwise_cons.mpr ⟨fun x hx => ?_, ih hrest⟩
        rcases (mem_insertOrdered x s rest).mp hx with rfl | hx
        · exact lt_of_le_of_ne (not_lt.mp hnlt) (Ne.symm hne)
        · exact ht x hx

theorem rising_ordered (texts : List String) : Rising (ordered texts) := by
  induction texts with
  | nil => exact .nil
  | cons s texts ih => exact ih.insertOrdered s

theorem Rising.eq_of_mem_iff {texts texts' : List String} (h : Rising texts) (h' : Rising texts')
    (hmem : ∀ s, s ∈ texts ↔ s ∈ texts') : texts = texts' :=
  List.Pairwise.eq_of_mem_iff (rising_iff.mp h) (rising_iff.mp h') hmem

theorem ordered_congr {texts texts' : List String} (h : ∀ s, s ∈ texts ↔ s ∈ texts') :
    ordered texts = ordered texts' :=
  (rising_ordered texts).eq_of_mem_iff (rising_ordered texts') fun s => by
    rw [mem_ordered, mem_ordered, h s]

end SensorFrames.Text
