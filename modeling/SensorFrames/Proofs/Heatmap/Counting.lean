import SensorFrames.Heatmap
import SensorFrames.Proofs.Query.Distinct

/-!
Counting records, one after another. After each record the tally has the groups in the order of
their first records, and the counts of a group are those of its records so far, by rising priority.
-/

set_option autoImplicit false

namespace SensorFrames.Heatmap

/-! ### One group -/

namespace Counts

def total (p : Nat) : Counts → Nat
  | [] => 0
  | (q, n) :: rest => (if q = p then n else 0) + total p rest

def size : Counts → Nat
  | [] => 0
  | (_, n) :: rest => n + size rest

/-- Each priority has one entry, and no entry is empty. -/
structure Valid (counts : Counts) : Prop where
  rising : counts.Pairwise fun a b => a.1 < b.1
  positive : ∀ e ∈ counts, 0 < e.2

theorem total_add (p q : Nat) (counts : Counts) :
    total p (add q counts) = total p counts + if q = p then 1 else 0 := by
  induction counts with
  | nil => simp [add, total]
  | cons e rest ih =>
    obtain ⟨r, n⟩ := e
    by_cases hr : r = q
    · subst hr
      simp only [add, if_true, total]
      split <;> omega
    · by_cases hlt : q < r
      · simp only [add, hr, hlt, if_true, if_false, total]
        omega
      · simp only [add, hr, hlt, if_false, total, ih]
        omega

theorem size_add (q : Nat) (counts : Counts) : size (add q counts) = size counts + 1 := by
  induction counts with
  | nil => rfl
  | cons e rest ih =>
    obtain ⟨r, n⟩ := e
    simp only [add]
    split
    · simp only [size]
      omega
    · split <;> simp only [size, ih] <;> omega

theorem mem_add {p : Nat} {counts : Counts} {e : Nat × Nat} (h : e ∈ add p counts) :
    (e.1 = p ∧ 0 < e.2) ∨ e ∈ counts := by
  induction counts with
  | nil => simp_all [add]
  | cons f rest ih =>
    obtain ⟨q, n⟩ := f
    simp only [add] at h
    split at h
    · simp only [List.mem_cons] at h
      rcases h with rfl | h
      · exact Or.inl ⟨by assumption, by simp⟩
      · exact Or.inr (List.mem_cons_of_mem _ h)
    · split at h
      · rcases List.mem_cons.mp h with rfl | h
        · exact Or.inl ⟨rfl, by simp⟩
        · exact Or.inr h
      · rcases List.mem_cons.mp h with rfl | h
        · exact Or.inr List.mem_cons_self
        · exact (ih h).imp_right (List.mem_cons_of_mem _)

theorem Valid.tail {e : Nat × Nat} {rest : Counts} (h : Valid (e :: rest)) : Valid rest :=
  ⟨h.rising.of_cons, fun f hf => h.positive f (List.mem_cons_of_mem e hf)⟩

theorem Valid.add {p : Nat} {counts : Counts} (h : Valid counts) : Valid (add p counts) := by
  refine ⟨?_, fun e he => (mem_add he).elim (·.2) (h.positive e)⟩
  induction counts with
  | nil => simp [Counts.add]
  | cons f rest ih =>
    obtain ⟨q, n⟩ := f
    obtain ⟨hhead, hrest⟩ := List.pairwise_cons.mp h.rising
    simp only [Counts.add]
    split
    · exact List.pairwise_cons.mpr ⟨hhead, hrest⟩
    · split
      · rename_i hlt
        refine List.pairwise_cons.mpr ⟨fun e he => ?_, h.rising⟩
        rcases List.mem_cons.mp he with rfl | he
        · exact hlt
        · exact Nat.lt_trans hlt (hhead e he)
      · rename_i hne hnlt
        refine List.pairwise_cons.mpr ⟨fun e he => ?_, ih h.tail⟩
        rcases mem_add he with ⟨rfl, -⟩ | he
        · simp only at hne hnlt ⊢
          omega
        · exact hhead e he

theorem total_eq_zero {p : Nat} {counts : Counts} (h : ∀ e ∈ counts, e.1 ≠ p) :
    total p counts = 0 := by
  induction counts with
  | nil => rfl
  | cons e rest ih =>
    have htail := ih fun f hf => h f (List.mem_cons_of_mem e hf)
    simp [total, h e List.mem_cons_self, htail]

theorem Valid.mem_iff {counts : Counts} (h : Valid counts) {p n : Nat} :
    (p, n) ∈ counts ↔ 0 < n ∧ total p counts = n := by
  induction counts with
  | nil =>
    simp [total]
    omega
  | cons e rest ih =>
    obtain ⟨q, m⟩ := e
    have hlater := (List.pairwise_cons.mp h.rising).1
    by_cases hq : q = p
    · subst hq
      have hzero : total q rest = 0 := total_eq_zero fun f hf => Nat.ne_of_gt (hlater f hf)
      have hpos : 0 < m := h.positive (q, m) List.mem_cons_self
      have hnot : (q, n) ∉ rest := fun hmem => Nat.lt_irrefl q (hlater _ hmem)
      simp only [List.mem_cons, Prod.mk.injEq, true_and, hnot, or_false, total, if_true, hzero]
      omega
    · simp only [List.mem_cons, Prod.mk.injEq, Ne.symm hq, false_and, false_or, total, hq, if_false,
        Nat.zero_add]
      exact ih h.tail

end Counts

/-! ### All groups -/

namespace Tally

def groups (t : Tally) : List String := t.map (·.1)

def size : Tally → Nat
  | [] => 0
  | (_, counts) :: rest => counts.size + size rest

/-- The tally of the cells that were counted so far. -/
structure Counted (cells : List (String × Nat)) (t : Tally) : Prop where
  groups : t.groups = distinct (cells.map (·.1))
  valid : ∀ g counts, (g, counts) ∈ t → counts.Valid
  total : ∀ g counts, (g, counts) ∈ t → ∀ p, counts.total p = cells.count (g, p)

theorem groups_add (c : String × Nat) (t : Tally) :
    (t.add c).groups = if c.1 ∈ t.groups then t.groups else t.groups ++ [c.1] := by
  induction t with
  | nil => simp [add, groups]
  | cons e rest ih =>
    obtain ⟨g, counts⟩ := e
    by_cases hg : g = c.1
    · simp [add, groups, hg]
    · by_cases hmem : c.1 ∈ groups rest
      · simp_all [add, groups]
      · simp_all [add, groups, eq_comm]

theorem size_add (c : String × Nat) (t : Tally) : (t.add c).size = t.size + 1 := by
  induction t with
  | nil => rfl
  | cons e rest ih =>
    obtain ⟨g, counts⟩ := e
    simp only [add]
    split
    · simp only [size, Counts.size_add]
      omega
    · simp only [size, ih]
      omega

theorem mem_add {c : String × Nat} {t : Tally} (ht : t.groups.Nodup) {g : String} {counts : Counts}
    (h : (g, counts) ∈ t.add c) :
    (g ≠ c.1 ∧ (g, counts) ∈ t) ∨
      (g = c.1 ∧ ∃ before, counts = Counts.add c.2 before ∧
        ((g, before) ∈ t ∨ g ∉ t.groups ∧ before = [])) := by
  induction t with
  | nil =>
    simp only [add, List.mem_singleton, Prod.mk.injEq] at h
    exact Or.inr ⟨h.1, [], h.2, Or.inr ⟨by simp [groups], rfl⟩⟩
  | cons e rest ih =>
    obtain ⟨g₀, k⟩ := e
    obtain ⟨hnot, hrest⟩ := List.nodup_cons.mp ht
    simp only [add] at h
    split at h
    · rename_i hg₀
      rcases List.mem_cons.mp h with he | h
      · obtain ⟨rfl, rfl⟩ := Prod.mk.inj he
        exact Or.inr ⟨hg₀, k, rfl, Or.inl List.mem_cons_self⟩
      · refine Or.inl ⟨?_, List.mem_cons_of_mem _ h⟩
        rintro rfl
        exact hnot (List.mem_map.mpr ⟨_, h, hg₀.symm⟩)
    · rename_i hg₀
      rcases List.mem_cons.mp h with he | h
      · obtain ⟨rfl, rfl⟩ := Prod.mk.inj he
        exact Or.inl ⟨hg₀, List.mem_cons_self⟩
      · rcases ih hrest h with ⟨hne, hmem⟩ | ⟨rfl, before, hbefore, hmem | ⟨hnew, hnil⟩⟩
        · exact Or.inl ⟨hne, List.mem_cons_of_mem _ hmem⟩
        · exact Or.inr ⟨rfl, before, hbefore, Or.inl (List.mem_cons_of_mem _ hmem)⟩
        · refine Or.inr ⟨rfl, before, hbefore, Or.inr ⟨?_, hnil⟩⟩
          simpa [groups, eq_comm, hg₀] using hnew

theorem counted_nil : Counted [] [] where
  groups := rfl
  valid g counts h := by simp at h
  total g counts h := by simp at h

theorem Counted.add {cells : List (String × Nat)} {t : Tally} (h : Counted cells t)
    (c : String × Nat) : Counted (cells ++ [c]) (t.add c) := by
  have hnodup : t.groups.Nodup := h.groups ▸ nodup_distinct _
  have hgroups : ∀ g, g ∈ t.groups ↔ g ∈ cells.map (·.1) := fun g => by rw [h.groups, mem_distinct]
  constructor
  case groups =>
    rw [groups_add, List.map_append, List.map_cons, List.map_nil, distinct_concat, h.groups]
    simp only [mem_distinct]
  case valid =>
    intro g counts hmem
    rcases mem_add hnodup hmem with ⟨-, hold⟩ | ⟨-, before, rfl, hold | ⟨-, rfl⟩⟩
    · exact h.valid g counts hold
    · exact (h.valid g before hold).add
    · exact Counts.Valid.add ⟨.nil, by simp⟩
  case total =>
    -- A group that is new has no record among the cells before, so its count starts from zero.
    intro g counts hmem p
    rw [List.count_append, List.count_singleton]
    rcases mem_add hnodup hmem with ⟨hne, hold⟩ | ⟨rfl, before, rfl, hold | ⟨hnew, rfl⟩⟩
    · have hc : (c == (g, p)) = false := by
        rw [beq_eq_false_iff_ne]
        rintro rfl
        exact hne rfl
      rw [h.total g counts hold, hc]
      rfl
    · rw [Counts.total_add, h.total c.1 before hold]
      obtain ⟨g, q⟩ := c
      simp
    · have hzero : cells.count (c.1, p) = 0 := by
        refine List.count_eq_zero.mpr fun hcell => hnew ((hgroups c.1).mpr ?_)
        exact List.mem_map.mpr ⟨_, hcell, rfl⟩
      rw [Counts.total_add, hzero]
      obtain ⟨g, q⟩ := c
      simp [Counts.total]

theorem Counted.foldl {cells : List (String × Nat)} {t : Tally} (h : Counted cells t)
    (more : List (String × Nat)) :
    Counted (cells ++ more) (more.foldl (fun t c => t.add c) t) := by
  induction more generalizing cells t with
  | nil => simpa using h
  | cons c more ih => simpa using ih (h.add c)

theorem size_foldl (t : Tally) (more : List (String × Nat)) :
    (more.foldl (fun t c => t.add c) t).size = t.size + more.length := by
  induction more generalizing t with
  | nil => rfl
  | cons c more ih =>
    rw [List.foldl_cons, ih, size_add, List.length_cons]
    omega

end Tally

theorem tally_eq (records : List Record) :
    tally records = (records.map cell).foldl (fun (t : Tally) c => t.add c) [] := by
  rw [tally, List.foldl_map]

theorem tally_counted (records : List Record) : (tally records).Counted (records.map cell) := by
  simpa [tally_eq] using Tally.counted_nil.foldl (records.map cell)

theorem size_tally (records : List Record) : (tally records).size = records.length := by
  rw [tally_eq, Tally.size_foldl, List.length_map, Tally.size, Nat.zero_add]

end SensorFrames.Heatmap
