import Mathlib.Algebra.BigOperators.Group.List.Lemmas
import SensorFrames.Proofs.Table.StatusColumn

/-!
Totals of the statuses. Main statement: the table and the heatmap of some records give each
priority the same number of them.
-/

set_option autoImplicit false

namespace SensorFrames

def Json.isNat (p : Nat) : Json → Bool
  | .num (.integer n) => n == p
  | _ => false

@[simp] theorem Json.isNat_ofNat (p q : Nat) : (Json.ofNat q).isNat p = decide (q = p) := by
  rw [Json.ofNat, Json.isNat, Bool.eq_iff_iff, beq_iff_eq, decide_eq_true_iff]
  exact Int.ofNat_inj

namespace Heatmap

theorem cells_perm (records : List Record) :
    ((rows records).map fun row => (row.group, row.priority)).Perm (records.map cell).dedup := by
  refine (List.perm_ext_iff_of_nodup (rows_nodup records) (List.nodup_dedup _)).mpr fun c => ?_
  rw [List.mem_dedup, ← List.count_pos_iff (l := records.map cell), count_cells, List.mem_map]
  constructor
  · rintro ⟨row, hrow, rfl⟩
    obtain ⟨hpos, hcount⟩ := mem_rows.mp hrow
    exact hcount ▸ hpos
  · intro hpos
    exact ⟨⟨c.1, c.2, _⟩, mem_rows.mpr ⟨hpos, rfl⟩, rfl⟩

theorem sum_counts_of_priority (records : List Record) (p : Nat) :
    (((rows records).filter (·.priority = p)).map (·.count)).sum =
      records.countP fun r => Status.priorityOf (r.get? "status") = p := by
  let ofCell (c : String × Nat) : Nat := records.countP (cell · = c)
  have hrows : ((rows records).filter (·.priority = p)).map (·.count) =
      (((rows records).map fun row => (row.group, row.priority)).filter (·.2 = p)).map ofCell := by
    rw [List.filter_map, List.map_map]
    refine List.map_congr_left fun row hrow => ?_
    exact (mem_rows.mp (List.mem_filter.mp hrow).1).2.symm
  have hcells : ofCell = fun c => (records.map cell).countP fun d => decide (d = c) := by
    funext c
    rw [List.countP_map]
    rfl
  calc (((rows records).filter (·.priority = p)).map (·.count)).sum
      = (((records.map cell).dedup.filter (·.2 = p)).map ofCell).sum := by
        rw [hrows, (((cells_perm records).filter _).map _).sum_eq]
    _ = (records.map cell).countP (·.2 = p) := by
        rw [hcells]
        exact List.sum_map_count_dedup_filter_eq_countP _ _
    _ = records.countP fun r => Status.priorityOf (r.get? "status") = p := by
        rw [List.countP_map]
        rfl

end Heatmap

namespace Table

theorem values_status {refId : String} {records : List Record} {requested : List String} {f : Field}
    (honly : ∀ c ∈ columns records requested, displayName c = "Status" → c = statusColumn)
    (hf : f ∈ (frame refId records requested).fields) (hname : f.name = "Status") :
    f.values = records.map fun r => .ofNat (Status.priorityOf (r.get? statusColumn)) := by
  rw [fields_frame] at hf
  obtain ⟨c, hc, rfl⟩ := List.mem_map.mp hf
  obtain rfl : c = statusColumn := honly c hc (by simpa using hname)
  have hoverlaid : ¬ Overlaid (columns records requested) := by
    rintro ⟨before, after, hcolumns, -⟩
    have hmem : "Status" ∈ columns records requested := by simp [hcolumns]
    exact absurd (honly "Status" hmem (by decide)) (by decide)
  simp only [bearer_of_not_overlaid hc hoverlaid, cell_status]

/-- When the column of the status is asked for, and no other one that is shown under its name, then
each priority stands in the field of the status as often as the rows of the heatmap count it, and
both account for every record. -/
theorem status_totals_agree (refId : String) (records : List Record) {requested : List String}
    (hstatus : statusColumn ∈ requested)
    (honly : ∀ c ∈ requested, displayName c = "Status" → c = statusColumn) :
    (∃ f ∈ (frame refId records requested).fields, f.name = "Status") ∧
    (∀ f ∈ (frame refId records requested).fields, f.name = "Status" →
      (∀ p, f.values.countP (Json.isNat p) =
        (((Heatmap.rows records).filter (·.priority = p)).map (·.count)).sum) ∧
      f.values.length = records.length) ∧
    ((Heatmap.rows records).map (·.count)).sum = records.length := by
  have hcolumns : columns records requested = requested := by
    cases requested with
    | nil => simp at hstatus
    | cons c cs => rfl
  refine ⟨?_, fun f hf hname => ?_, Heatmap.sum_counts records⟩
  · rw [fields_frame, hcolumns]
    exact ⟨_, List.mem_map_of_mem hstatus, by simp⟩
  · rw [values_status (fun c hc => honly c (hcolumns ▸ hc)) hf hname, List.length_map]
    refine ⟨fun p => ?_, rfl⟩
    rw [Heatmap.sum_counts_of_priority, List.countP_map]
    simp [Function.comp_def, statusColumn]

def patchy : List Record :=
  [[("group", .str "Zeta"), ("status", .str "Down")], [("group", .str "Zeta")],
    [("status", .num (.integer 7))], [("group", .null), ("status", .str " down ")],
    [("group", .str "Zeta"), ("status", .str "melted")]]

theorem patchy_totals_agree :
    statusColumn ∈ ["name", "status"] ∧
    (∀ c ∈ ["name", "status"], displayName c = "Status" → c = statusColumn) ∧
    ∃ f ∈ (frame "A" patchy ["name", "status"]).fields, f.name = "Status" ∧
      f.values.countP (Json.isNat 1) = 2 ∧ f.values.length = 5 := by
  have hstatus : statusColumn ∈ ["name", "status"] := by decide
  have honly : ∀ c ∈ ["name", "status"], displayName c = "Status" → c = statusColumn := by decide
  have hrows : (((Heatmap.rows patchy).filter (·.priority = 1)).map (·.count)).sum = 2 := by
    decide +kernel
  obtain ⟨⟨f, hf, hname⟩, hagree, -⟩ := status_totals_agree "A" patchy hstatus honly
  obtain ⟨hcounts, hlength⟩ := hagree f hf hname
  exact ⟨hstatus, honly, f, hf, hname, (hcounts 1).trans hrows, hlength⟩

end Table

end SensorFrames
