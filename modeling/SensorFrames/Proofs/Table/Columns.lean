import Mathlib.Data.List.Nodup
import SensorFrames.Proofs.Frame.Rows
import SensorFrames.Table

/-!
Columns of a table. Cells travel by display name, so a field shows the cells of the last column
that has its name. They are its own when no later column is shown under the same name.
-/

set_option autoImplicit false

namespace SensorFrames.Table

/-- The last of the columns that is shown under the name of the column. -/
def bearer (columns : List String) (column : String) : String :=
  (columns.reverse.find? (displayName · == displayName column)).getD column

theorem lookup_map_eq_find? {α β γ : Type} [BEq β] (name : α → β) (value : α → γ) (k : β)
    (l : List α) :
    (l.map fun x => (name x, value x)).lookup k = (l.find? fun x => k == name x).map value := by
  induction l with
  | nil => rfl
  | cons x l ih => cases h : k == name x <;> simp [List.lookup_cons, h, ih]

theorem bearer_spec {columns : List String} {column : String} (h : column ∈ columns) :
    columns.reverse.find? (displayName · == displayName column) = some (bearer columns column) := by
  unfold bearer
  cases hfind : columns.reverse.find? (displayName · == displayName column) with
  | some _ => rfl
  | none =>
    have hnone := List.find?_eq_none.mp hfind column (List.mem_reverse.mpr h)
    simp at hnone

theorem get?_row {columns : List String} {column : String} (h : column ∈ columns) (r : Record) :
    (row columns r).get? (displayName column) = some (cell r (bearer columns column)) := by
  have hfind : columns.reverse.find? (displayName column == displayName ·) =
      some (bearer columns column) := by
    simpa only [BEq.comm] using bearer_spec h
  rw [row, Record.get?_ofEntries, ← List.map_reverse,
    lookup_map_eq_find? displayName (cell r), hfind, Option.map_some]

@[simp] theorem name_field (sample : Option Record) (column : String) :
    (field sample column).name = displayName column := by
  unfold field
  split <;> rfl

@[simp] theorem values_field (sample : Option Record) (column : String) :
    (field sample column).values = [] := by
  unfold field
  split <;> rfl

theorem fields_frame (refId : String) (records : List Record) (requested : List String) :
    (frame refId records requested).fields =
      (columns records requested).map fun c =>
        { field records.head? c with
          values := records.map (cell · (bearer (columns records requested) c)) } := by
  simp only [frame, Frame.addAll_eq, List.map_map]
  refine List.map_congr_left fun c hc => ?_
  simp [Frame.valuesOf, get?_row hc, Function.comp_def]

theorem bearer_eq_self {columns : List String} {column : String} (h : column ∈ columns)
    (hdistinct : (columns.map displayName).Nodup) : bearer columns column = column := by
  have hfound := bearer_spec h
  have hmem : bearer columns column ∈ columns :=
    List.mem_reverse.mp (List.mem_of_find?_eq_some hfound)
  have hname : displayName (bearer columns column) = displayName column := by
    simpa using List.find?_some hfound
  exact List.inj_on_of_nodup_map hdistinct hmem h hname

/-- A field has the name of its column, and its values are the cells of that column just when each
record has the same cell for the last column of that name. So they are whenever the columns are
shown under different names. -/
theorem own_cells_iff (refId : String) (records : List Record) (requested : List String) :
    (frame refId records requested).fields.length = (columns records requested).length ∧
    (∀ (i : Nat) (c : String), (columns records requested)[i]? = some c →
      ∃ f : Field, (frame refId records requested).fields[i]? = some f ∧ f.name = displayName c ∧
        (f.values = records.map (cell · c) ↔
          ∀ r ∈ records, cell r (bearer (columns records requested) c) = cell r c)) ∧
    (((columns records requested).map displayName).Nodup →
      ∀ (i : Nat) (c : String), (columns records requested)[i]? = some c →
        ∃ f : Field, (frame refId records requested).fields[i]? = some f ∧
          f.values = records.map (cell · c)) := by
  rw [fields_frame]
  refine ⟨by simp, fun i c hc => ?_, fun hdistinct i c hc => ?_⟩
  · rw [List.getElem?_map, hc]
    exact ⟨_, rfl, by simp, by simp [List.map_inj_left]⟩
  · rw [List.getElem?_map, hc]
    have hself := bearer_eq_self (List.mem_of_getElem? hc) hdistinct
    exact ⟨_, rfl, by simp [hself]⟩

def shadowed : Record := [("Status", .str "n/a"), ("status", .str "Down")]

theorem cell_shadowed : cell shadowed "status" = .ofNat 1 := by
  have hpriority : Status.priorityOf (shadowed.get? statusColumn) = 1 := by decide +kernel
  rw [cell, if_pos (show "status" = statusColumn from rfl), hpriority]

theorem status_shows_own_cells :
    ((columns [shadowed] ["name", "status"]).map displayName).Nodup ∧
    (columns [shadowed] ["name", "status"])[1]? = some "status" ∧
    ∃ f : Field, (frame "A" [shadowed] ["name", "status"]).fields[1]? = some f ∧
      f.values = [.ofNat 1] := by
  have hdistinct : ((columns [shadowed] ["name", "status"]).map displayName).Nodup := by decide
  obtain ⟨-, -, hown⟩ := own_cells_iff "A" [shadowed] ["name", "status"]
  obtain ⟨f, hf, hvalues⟩ := hown hdistinct 1 "status" rfl
  exact ⟨hdistinct, rfl, f, hf, by simpa [cell_shadowed] using hvalues⟩

/-- With it, the field of the status does not show the priority, but what the other column holds. -/
theorem status_shows_other_column :
    ¬ ∀ (refId : String) (records : List Record) (requested : List String) (i : Nat) (c : String),
      (columns records requested)[i]? = some c →
        ∃ f : Field, (frame refId records requested).fields[i]? = some f ∧ f.name = displayName c ∧
          f.values = records.map (cell · c) := by
  intro h
  obtain ⟨f, hf, -, hvalues⟩ := h "A" [shadowed] ["status", "Status"] 0 "status" rfl
  have hbearer : bearer ["status", "Status"] "status" = "Status" := by decide
  have hfirst : (frame "A" [shadowed] ["status", "Status"]).fields[0]?.map (·.values) =
      some [cell shadowed "Status"] := by
    rw [fields_frame]
    simp [columns, hbearer]
  have hother : cell shadowed "Status" = .str "n/a" := rfl
  rw [hf, Option.map_some, hvalues] at hfirst
  simp [cell_shadowed, hother, Json.ofNat] at hfirst

end SensorFrames.Table
