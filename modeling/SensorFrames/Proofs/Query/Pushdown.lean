import SensorFrames.Proofs.Frame.Rows
import SensorFrames.Proofs.Heatmap.Counting
import SensorFrames.Session

/-!
Fetching no more than a frame shows. A frame depends on its records only through the keys that the
fetched columns name, so records without the other keys give the same frame.
-/

set_option autoImplicit false

namespace SensorFrames

/-! ### Tables -/

/-- The top-level key that a column reads: its text before the first dot. -/
def topKey (column : String) : String := String.ofList (column.toList.takeWhile (· != '.'))

namespace Table

theorem splitAtDot_some {column parent child : String}
    (h : splitAtDot column = some (parent, child)) : topKey column = parent := by
  unfold splitAtDot at h
  split at h
  · contradiction
  · exact congrArg Prod.fst (Option.some.inj h)

theorem splitAtDot_none {column : String} (h : splitAtDot column = none) :
    topKey column = column := by
  unfold splitAtDot at h
  split at h
  · rename_i hnil
    have hall := List.takeWhile_append_dropWhile (p := (· != '.')) (l := column.toList)
    rw [hnil, List.append_nil] at hall
    rw [topKey, hall, String.ofList_toList]
  · contradiction

variable {r r' : Record} {column : String}

theorem lookup_congr (h : Agree [topKey column] r r') : lookup r column = lookup r' column := by
  have hkey := h (topKey column) (by simp)
  unfold lookup
  split
  · rename_i parent child hsplit
    rw [splitAtDot_some hsplit] at hkey
    rw [hkey]
  · rename_i hsplit
    rw [splitAtDot_none hsplit] at hkey
    rw [hkey]

theorem cell_congr (h : Agree [topKey column] r r') : cell r column = cell r' column := by
  unfold cell
  split
  · rename_i hstatus
    have hkey := h statusColumn (by rw [hstatus]; decide)
    rw [hkey]
  · exact lookup_congr h

section Frames

variable {keys requested : List String} {narrowed : Record → Record}

theorem field_congr (h : ∀ r, Agree [topKey column] (narrowed r) r) (sample : Option Record) :
    field (sample.map narrowed) column = field sample column := by
  cases sample with
  | none => rfl
  | some r => simp [field, lookup_congr (h r)]

theorem row_congr (h : ∀ r, ∀ c ∈ requested, Agree [topKey c] (narrowed r) r) (r : Record) :
    row requested (narrowed r) = row requested r := by
  refine congrArg Record.ofEntries (List.map_congr_left fun c hc => ?_)
  rw [cell_congr (h r c hc)]

theorem frame_congr (hne : requested ≠ [])
    (h : ∀ r, ∀ c ∈ requested, Agree [topKey c] (narrowed r) r) (refId : String)
    (records : List Record) :
    frame refId (records.map narrowed) requested = frame refId records requested := by
  have hcolumns : ∀ rs, columns rs requested = requested := by
    intro rs
    cases requested with
    | nil => contradiction
    | cons c cs => rfl
  have hrows : (records.map narrowed).map (row requested) = records.map (row requested) := by
    rw [List.map_map]
    exact List.map_congr_left fun r _ => row_congr h r
  have hfields : requested.map (field (records.map narrowed).head?) =
      requested.map (field records.head?) := by
    rw [List.head?_map]
    exact List.map_congr_left fun c hc => field_congr (fun r => h r c hc) _
  simp only [frame, hcolumns, hrows, hfields]

end Frames

end Table

/-! ### Heatmaps -/

namespace Heatmap

theorem cell_congr {r r' : Record} (h : Agree ["group", "status"] r r') : cell r = cell r' := by
  rw [cell, cell, h "group" (by simp), h "status" (by simp)]

theorem rows_congr {narrowed : Record → Record}
    (h : ∀ r, Agree ["group", "status"] (narrowed r) r) (records : List Record) :
    rows (records.map narrowed) = rows records := by
  have hcells : (records.map narrowed).map cell = records.map cell := by
    rw [List.map_map]
    exact List.map_congr_left fun r _ => cell_congr (h r)
  rw [rows, rows, tally_eq, tally_eq, hcells]

end Heatmap

/-! ### Queries -/

namespace Query

theorem mem_fetchColumns {q : Query} (hview : q.viewMode = .table) {fetched : List String}
    (h : q.fetchColumns = some fetched) :
    q.requestedColumns ≠ [] ∧ ∀ c, c ∈ fetched ↔ c ∈ q.requestedColumns := by
  unfold fetchColumns at h
  rw [hview] at h
  simp only at h
  split at h
  · contradiction
  · rename_i c cs hrequested
    obtain rfl := Option.some.inj h
    rw [hrequested]
    exact ⟨by simp, fun c => mem_distinct⟩

/-- A query that fetches some columns only shows the same frame on records that hold no other keys
than these columns name. -/
theorem shape_restricted (q : Query) (fetched : List String) (h : q.fetchColumns = some fetched)
    (records : List Record) :
    q.shape (records.map (Record.restrict (fetched.map topKey))) = q.shape records := by
  have hagree := fun r => agree_restrict (fetched.map topKey) r
  unfold shape
  cases hview : q.viewMode with
  | heatmap =>
    have hfetched : fetched = ["group", "status"] := by
      simpa [fetchColumns, hview, eq_comm] using h
    have hkeys : fetched.map topKey = ["group", "status"] := by
      rw [hfetched]
      decide
    rw [hkeys] at hagree ⊢
    simp only [Heatmap.rows_congr hagree]
  | table =>
    obtain ⟨hne, hmem⟩ := mem_fetchColumns hview h
    refine Table.frame_congr hne (fun r c hc => (hagree r).single ?_) q.refId records
    exact List.mem_map_of_mem ((hmem c).mpr hc)

def parentNames : Query where
  columns := some ["parent.name", "status", "parent.name"]

def sensor : Record :=
  [("message", .str "OK"), ("parent", .obj [("name", .str "Router"), ("objid", .ofNat 40)]),
    ("parent.name", .str "dotted"), ("status", .str "Up")]

theorem parent_names_restricted :
    parentNames.fetchColumns = some ["parent.name", "status"] ∧
    (sensor.restrict (["parent.name", "status"].map topKey)).keys = ["parent", "status"] ∧
    parentNames.shape ([sensor].map (Record.restrict (["parent.name", "status"].map topKey))) =
      parentNames.shape [sensor] := by
  have hfetch : parentNames.fetchColumns = some ["parent.name", "status"] := by decide
  exact ⟨hfetch, by decide, shape_restricted parentNames _ hfetch [sensor]⟩

end Query

end SensorFrames
