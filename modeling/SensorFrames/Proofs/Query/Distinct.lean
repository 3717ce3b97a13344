import Mathlib.Data.List.Basic
import SensorFrames.Query.Basic

/-!
Members in the order of their first occurrence. `distinct` has the members of the list, each once,
and a member stands before another when it is met before it. Main statement: no other list is so.
-/

set_option autoImplicit false

namespace SensorFrames

variable {α : Type} [DecidableEq α]

@[simp] theorem mem_distinct {x : α} {xs : List α} : x ∈ distinct xs ↔ x ∈ xs := by
  induction xs with
  | nil => simp [distinct]
  | cons y ys ih => by_cases h : x = y <;> simp [distinct, h, ih]

theorem nodup_distinct (xs : List α) : (distinct xs).Nodup := by
  induction xs with
  | nil => simp [distinct]
  | cons y ys ih => exact List.nodup_cons.mpr ⟨by simp, ih.filter _⟩

theorem distinct_concat (xs : List α) (x : α) :
    distinct (xs ++ [x]) = if x ∈ xs then distinct xs else distinct xs ++ [x] := by
  induction xs with
  | nil => simp [distinct]
  | cons y ys ih =>
    by_cases hy : x = y
    · by_cases hx : x ∈ ys <;> simp_all [distinct]
    · by_cases hx : x ∈ ys <;> simp [distinct, ih, hx, hy]

theorem pairwise_idxOf_distinct (xs : List α) :
    (distinct xs).Pairwise fun a b => xs.idxOf a < xs.idxOf b := by
  induction xs with
  | nil => simp [distinct]
  | cons y ys ih =>
    have hne : ∀ a ∈ (distinct ys).filter (· ≠ y), y ≠ a := by
      intro a ha he
      simp [he] at ha
    refine List.pairwise_cons.mpr ⟨fun a ha => ?_, ?_⟩
    · rw [List.idxOf_cons_self, List.idxOf_cons_ne _ (hne a ha)]
      omega
    · refine (ih.filter _).imp_of_mem fun {a b} ha hb hlt => ?_
      rw [List.idxOf_cons_ne _ (hne a ha), List.idxOf_cons_ne _ (hne b hb)]
      omega

theorem distinct_of_nodup {xs : List α} (h : xs.Nodup) : distinct xs = xs := by
  induction xs with
  | nil => rfl
  | cons x xs ih =>
    obtain ⟨hx, hxs⟩ := List.nodup_cons.mp h
    have hkept : xs.filter (· ≠ x) = xs := by
      refine List.filter_eq_self.mpr fun y hy => decide_eq_true fun he => hx (he ▸ hy)
    rw [distinct, ih hxs, hkept]

/-- The second list has the members of the first, each once and in the order in which they come. -/
structure FirstOccurrences (xs ys : List α) : Prop where
  nodup : ys.Nodup
  mem_iff : ∀ x, x ∈ ys ↔ x ∈ xs
  ordered : ys.Pairwise fun a b => xs.idxOf a < xs.idxOf b

theorem firstOccurrences_distinct (xs : List α) : FirstOccurrences xs (distinct xs) :=
  ⟨nodup_distinct xs, fun _ => mem_distinct, pairwise_idxOf_distinct xs⟩

theorem FirstOccurrences.unique {xs ys zs : List α} (h : FirstOccurrences xs ys)
    (h' : FirstOccurrences xs zs) : ys = zs := by
  have hperm : ys.Perm zs := (List.perm_ext_iff_of_nodup h.nodup h'.nodup).mpr fun x =>
    (h.mem_iff x).trans (h'.mem_iff x).symm
  exact hperm.eq_of_pairwise (fun _ _ _ _ hlt hgt => absurd hlt (Nat.lt_asymm hgt))
    h.ordered h'.ordered

end SensorFrames
