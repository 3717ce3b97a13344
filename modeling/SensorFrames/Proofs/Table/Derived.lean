import SensorFrames.Proofs.Json.Members
import SensorFrames.Proofs.Table.Cells
import SensorFrames.Proofs.Table.Columns

/-!
Columns that are derived from the first record. A key without a dot shows the values that the
records have under it. A key with a dot is read as a path, so what stands under the key itself is
not shown.
-/

set_option autoImplicit false

namespace SensorFrames.Table

theorem fields_derived (refId : String) {first : Record} (rest : List Record)
    (hdistinct : (first.keys.map displayName).Nodup) :
    (frame refId (first :: rest) []).fields = first.keys.map fun k =>
      { field (some first) k with values := (first :: rest).map (cell · k) } := by
  have hcolumns : columns (first :: rest) [] = first.keys := rfl
  rw [fields_frame, hcolumns, List.head?_cons]
  refine List.map_congr_left fun k hk => ?_
  rw [bearer_eq_self hk hdistinct]

/-- When the keys of the first record are shown under different names, each has a field in its
place: for the status the priorities, for another key without a dot the values of the records, and
for a key with a dot the members that it leads to. So a value of the first record is in the first
row unless its key is that of the status or has a dot. -/
theorem derived_cells (refId : String) (first : Record) (rest : List Record)
    (hdistinct : (first.keys.map displayName).Nodup) :
    (frame refId (first :: rest) []).fields.map (·.name) = first.keys.map displayName ∧
    (∀ (i : Nat) (k : String), first.keys[i]? = some k →
      ∃ f, (frame refId (first :: rest) []).fields[i]? = some f ∧
        (k = statusColumn →
          f.values = (first :: rest).map fun r => .ofNat (Status.priorityOf (r.get? k))) ∧
        (k ≠ statusColumn → '.' ∉ k.toList →
          f.values = (first :: rest).map fun r => (r.get? k).getD .null) ∧
        (∀ parent child : String, k = parent ++ "." ++ child → '.' ∉ parent.toList →
          f.values = (first :: rest).map fun r =>
            ((r.get? parent).bind (·.member? child)).getD .null)) ∧
    (∀ (k : String) (v : Json), (k, v) ∈ first → k ≠ statusColumn → '.' ∉ k.toList →
      ∃ f ∈ (frame refId (first :: rest) []).fields,
        f.name = displayName k ∧ f.values.head? = some v) := by
  rw [fields_derived refId rest hdistinct]
  refine ⟨by simp, fun i k hk => ?_, fun k v hkv hne hdot => ?_⟩
  · rw [List.getElem?_map, hk, Option.map_some]
    refine ⟨_, rfl, ?status, ?plain, ?path⟩
    case status =>
      rintro rfl
      exact List.map_congr_left fun r _ => cell_status r
    case plain =>
      intro hne hdot
      exact List.map_congr_left fun r _ => cell_plain hne hdot r
    case path =>
      rintro parent child rfl hdot
      exact List.map_congr_left fun r _ => cell_path hdot child r
  · have hkey : k ∈ first.keys := List.mem_map.mpr ⟨_, hkv, rfl⟩
    refine ⟨_, List.mem_map_of_mem hkey, name_field _ _, ?_⟩
    have hown : first.get? k = some v :=
      Record.get?_of_mem (List.Nodup.of_map displayName hdistinct) hkv
    simp [cell_plain hne hdot, hown]

def spelledPath : Record :=
  [("parent", .obj [("name", .str "Core")]), ("parent.name", .str "X"), ("status", .str "Down")]

theorem spelled_path_read :
    (spelledPath.keys.map displayName).Nodup ∧
    (∃ f, (frame "A" [spelledPath] []).fields[1]? = some f ∧ f.values = [.str "Core"]) ∧
    (∃ f, (frame "A" [spelledPath] []).fields[2]? = some f ∧ f.values = [.ofNat 1]) ∧
    ∃ f ∈ (frame "A" [spelledPath] []).fields,
      f.name = "Parent" ∧ f.values.head? = some (.obj [("name", .str "Core")]) := by
  have hdistinct : (spelledPath.keys.map displayName).Nodup := by decide
  have hpriority : Status.priorityOf (spelledPath.get? "status") = 1 := by decide +kernel
  have hname : displayName "parent" = "Parent" := by decide
  obtain ⟨-, hfields, hfirst⟩ := derived_cells "A" spelledPath [] hdistinct
  obtain ⟨f, hf, -, -, hpath⟩ := hfields 1 "parent.name" rfl
  obtain ⟨g, hg, hstatus, -, -⟩ := hfields 2 "status" rfl
  refine ⟨hdistinct, ⟨f, hf, ?_⟩, ⟨g, hg, ?_⟩, ?_⟩
  · exact hpath "parent" "name" rfl (by decide)
  · simpa [hpriority] using hstatus rfl
  · exact hname ▸ hfirst "parent" _ (by simp [spelledPath]) (by decide) (by decide)

/-- Without an object that the path leads into, the value under such a key is not shown. -/
theorem spelled_path_lost :
    ¬ ∀ (refId : String) (first : Record) (rest : List Record),
      (first.keys.map displayName).Nodup → ∀ (i : Nat) (k : String), first.keys[i]? = some k →
        ∃ f, (frame refId (first :: rest) []).fields[i]? = some f ∧
          (k ≠ statusColumn → f.values = (first :: rest).map fun r => (r.get? k).getD .null) := by
  intro h
  let first : Record := [("parent.name", .str "X")]
  have hdistinct : (first.keys.map displayName).Nodup := by decide
  obtain ⟨f, hf, hown⟩ := h "A" first [] hdistinct 0 "parent.name" rfl
  have hparent : '.' ∉ "parent".toList := by decide
  have hcell : cell first "parent.name" = .null := cell_path hparent "name" first
  have hvalues : (frame "A" [first] []).fields[0]?.map (·.values) =
      some [cell first "parent.name"] := by
    rw [fields_derived "A" [] hdistinct]
    rfl
  rw [hf, Option.map_some, hown (by decide), hcell] at hvalues
  simp [first, Record.get?] at hvalues

end SensorFrames.Table
