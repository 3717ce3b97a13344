import SensorFrames.Json.Decode
import SensorFrames.Proofs.Json.Members

/-!
Records of slots read back. When each slot reads what it writes, into its own part of the record
and no other, then a record type reads back from an object in any order of its members, and from
an array of its first parts; what is left out has to stand in the value to begin with.
-/

set_option autoImplicit false

namespace SensorFrames.Json

/-! ### Values -/

def Undoes {α : Type} (read : Decoder α) (write : α → Json) : Prop := ∀ a, read (write a) = .ok a

section Values

variable {α : Type} {read : Decoder α} {write : α → Json}

theorem Undoes.injective (h : Undoes read write) {a b : α} (hab : write a = write b) : a = b := by
  have hread := h a
  rw [hab, h b] at hread
  exact (Except.ok.inj hread).symm

theorem undoes_string : Undoes readString .str := fun _ => rfl

theorem undoes_bool : Undoes readBool .bool := fun _ => rfl

theorem undoes_list (h : Undoes read write) :
    Undoes (readList read) fun xs => .arr (xs.map write) := by
  intro xs
  have hread : read ∘ write = fun a => (pure a : Except DecodeError α) := funext h
  have hpure : xs.mapM (fun a => (pure a : Except DecodeError α)) = .ok xs := by
    simpa [pure, Except.pure] using List.mapM_pure (m := Except DecodeError) (f := id) (l := xs)
  rw [readList, List.mapM_map, hread, hpure]

theorem undoes_strings : Undoes (readList readString) strings := undoes_list undoes_string

/-- An absent value is written as null, so no other value may be. -/
theorem undoes_option (h : Undoes read write) (hnull : ∀ a, write a ≠ null) :
    Undoes (readOption read) (ofOption write) := by
  intro x
  cases x with
  | none => rfl
  | some a =>
    have hread : readOption read (write a) = (read (write a)).map some := by
      unfold readOption
      split
      · rename_i hwrite
        exact absurd hwrite (hnull a)
      · rfl
    rw [ofOption, hread, h a]
    rfl

end Values

/-! ### Slots -/

namespace Slot

variable {σ : Type} {slots : List (Slot σ)}

/-- What a slot reads of its own writing fills the parts of its name and leaves the others, and a
value is known by all that its slots write. -/
structure Lawful (slots : List (Slot σ)) : Prop where
  fills : ∀ slot ∈ slots, ∀ x y, ∃ z, slot.read (slot.write y) x = .ok z ∧
    ∀ other ∈ slots,
      other.write z = if other.name = slot.name then other.write y else other.write x
  ext : ∀ x y, (∀ slot ∈ slots, slot.write x = slot.write y) → x = y

/-- The members may stand in any order, and keys of no slot among them. Each part of `y` is read,
or it was there before. -/
theorem Lawful.readMembers_eq (h : Lawful slots) (y : σ) {r : Record} (hr : r.keys.Nodup) {x : σ}
    (hparts : ∀ slot ∈ slots, r.get? slot.name = some (slot.write y) ∨
      r.get? slot.name = none ∧ slot.write x = slot.write y) :
    readMembers slots r x = .ok y := by
  induction r generalizing x with
  | nil =>
    have hxy : x = y := h.ext x y fun slot hslot => by simpa [Record.get?] using hparts slot hslot
    rw [hxy]
    rfl
  | cons e r ih =>
    obtain ⟨key, value⟩ := e
    obtain ⟨hnot, hnodup⟩ := List.nodup_cons.mp hr
    have hlater : ∀ {name : String}, name ≠ key →
        Record.get? name ((key, value) :: r) = Record.get? name r := fun hne => by
      simp [Record.get?, Ne.symm hne]
    simp only [readMembers]
    split
    · rename_i slot hfind
      have hslot := List.mem_of_find?_eq_some hfind
      have hname : slot.name = key := by simpa using List.find?_some hfind
      have hvalue : value = slot.write y := by
        simpa [Record.get?, hname] using hparts slot hslot
      obtain ⟨z, hread, hz⟩ := h.fills slot hslot x y
      rw [hvalue, hread]
      refine ih hnodup fun other hother => ?_
      rw [hz other hother]
      by_cases hsame : other.name = slot.name
      · have hgone : Record.get? other.name r = none := by
          rw [hsame, hname]
          exact Record.get?_eq_none.mpr hnot
        exact Or.inr ⟨hgone, if_pos hsame⟩
      · rw [if_neg hsame, ← hlater (hname ▸ hsame)]
        exact hparts other hother
    · rename_i hfind
      refine ih hnodup fun slot hslot => ?_
      have hne : slot.name ≠ key := by simpa using List.find?_eq_none.mp hfind slot hslot
      rw [← hlater hne]
      exact hparts slot hslot

end Slot

end SensorFrames.Json
