import Mathlib.Data.List.Forall2
import SensorFrames.Heatmap
import SensorFrames.Proofs.Json.Members

/-!
Rows of a frame. Adding rows changes nothing but the values, and each field gets one value from
each row, in the order of the rows. Main statement: what rows leave of a frame and what they add to
it, and that the columns of a heatmap hold its rows side by side.
-/

set_option autoImplicit false

namespace SensorFrames

/-! ### Values of the rows -/

/-- The value that a row has for a name, which is null when it does not have the name. -/
inductive Record.Gives (name : String) (row : Record) : Json → Prop where
  | held {value : Json} (h : row.get? name = some value) : Gives name row value
  | missing (h : row.get? name = none) : Gives name row .null

theorem Record.gives_getD (name : String) (row : Record) :
    row.Gives name ((row.get? name).getD .null) := by
  cases h : row.get? name with
  | none => exact .missing h
  | some value => exact .held h

/-- The field as the rows leave it: its values go on with those of the rows, the rest is kept. -/
structure Field.Continues (rows : List Record) (before after : Field) : Prop where
  name : after.name = before.name
  type : after.type = before.type
  config : after.config = before.config
  values : ∃ added, after.values = before.values ++ added ∧
    List.Forall₂ (Record.Gives before.name) rows added

namespace Frame

def valuesOf (name : String) (rows : List Record) : List Json :=
  rows.map fun row => (row.get? name).getD .null

theorem addAll_eq (rows : List Record) (f : Frame) :
    f.addAll rows =
      ⟨f.refId, f.fields.map fun d => { d with values := d.values ++ valuesOf d.name rows }⟩ := by
  induction rows generalizing f with
  | nil => simp [addAll, valuesOf]
  | cons row rows ih =>
    have hstep : f.addAll (row :: rows) = (f.add row).addAll rows := rfl
    rw [hstep, ih]
    simp [add, Field.append, valuesOf, Function.comp_def]

theorem forall₂_gives (name : String) (rows : List Record) :
    List.Forall₂ (Record.Gives name) rows (valuesOf name rows) := by
  rw [valuesOf, List.forall₂_map_right_iff, List.forall₂_same]
  exact fun row _ => row.gives_getD name

theorem valuesOf_congr {names : List String} {rows rows' : List Record}
    (h : List.Forall₂ (Agree names) rows rows') {name : String} (hname : name ∈ names) :
    valuesOf name rows = valuesOf name rows' := by
  induction h with
  | nil => rfl
  | cons hrow _ ih =>
    rw [valuesOf, valuesOf, List.map_cons, List.map_cons, hrow name hname]
    exact congrArg _ ih

/-! ### Rows that are added -/

def names (f : Frame) : List String := f.fields.map (·.name)

def IsRectangular (n : Nat) (f : Frame) : Prop := ∀ d ∈ f.fields, d.values.length = n

theorem continues_addAll (rows : List Record) (f : Frame) :
    List.Forall₂ (Field.Continues rows) f.fields (f.addAll rows).fields := by
  rw [addAll_eq, List.forall₂_map_right_iff, List.forall₂_same]
  exact fun d _ => ⟨rfl, rfl, rfl, _, rfl, forall₂_gives d.name rows⟩

theorem IsRectangular.addAll {n : Nat} {f : Frame} (h : f.IsRectangular n) (rows : List Record) :
    (f.addAll rows).IsRectangular (n + rows.length) := by
  intro d hd
  rw [addAll_eq] at hd
  obtain ⟨before, hbefore, rfl⟩ := List.mem_map.mp hd
  simp [h before hbefore, valuesOf]

theorem IsRectangular.length_eq {n : Nat} {f : Frame} (h : f.IsRectangular n)
    (hne : f.fields ≠ []) : f.length = n := by
  unfold length
  split
  · contradiction
  · rename_i first rest hfields
    exact h first (by simp [hfields])

theorem addAll_congr {rows rows' : List Record} {f : Frame}
    (h : List.Forall₂ (Agree f.names) rows rows') : f.addAll rows = f.addAll rows' := by
  rw [addAll_eq, addAll_eq]
  refine congrArg _ (List.map_congr_left fun d hd => ?_)
  rw [valuesOf_congr h (List.mem_map_of_mem hd)]

end Frame

/-! ### Columns of a heatmap -/

namespace Heatmap

theorem get?_toRecord {row : Row} {key : String} {value : Json}
    (h : (key, value) ∈ [("Group", Json.str row.group), ("Status", .ofNat row.priority),
      ("Count", .ofNat row.count)]) : Record.get? key row.toRecord = some value :=
  Record.get?_ofEntries_of_mem (by simp) h

theorem valuesOf_toRecord {key : String} {value : Row → Json} {rows : List Row}
    (h : ∀ row : Row, (key, value row) ∈ [("Group", Json.str row.group),
      ("Status", .ofNat row.priority), ("Count", .ofNat row.count)]) :
    Frame.valuesOf key (rows.map Row.toRecord) = rows.map value := by
  rw [Frame.valuesOf, List.map_map]
  refine List.map_congr_left fun row _ => ?_
  rw [Function.comp_apply, get?_toRecord (h row), Option.getD_some]

theorem fields_frame (refId : String) (rows : List Row) :
    (frame refId rows).fields =
      [{ name := "Group", type := .string, values := rows.map fun row => .str row.group },
        { name := "Status", type := .number, config := some Status.fieldConfig,
          values := rows.map fun row => .ofNat row.priority },
        { name := "Count", type := .number, values := rows.map fun row => .ofNat row.count }] := by
  have hgroup := @valuesOf_toRecord "Group" (.str ·.group) rows (by simp)
  have hstatus := @valuesOf_toRecord "Status" (.ofNat ·.priority) rows (by simp)
  have hcount := @valuesOf_toRecord "Count" (.ofNat ·.count) rows (by simp)
  simp [frame, Frame.addAll_eq, hgroup, hstatus, hcount]

def readRow : Json → Json → Json → Option Row
  | .str group, .num (.integer (.ofNat priority)), .num (.integer (.ofNat count)) =>
    some ⟨group, priority, count⟩
  | _, _, _ => none

def readColumns : List Json → List Json → List Json → Option (List Row)
  | [], [], [] => some []
  | group :: groups, priority :: priorities, count :: counts => do
    let row ← readRow group priority count
    let rows ← readColumns groups priorities counts
    some (row :: rows)
  | _, _, _ => none

/-- The rows that a frame holds in the columns of a heatmap. -/
def readFrame (f : Frame) : Option (List Row) := do
  let groups ← f.field? "Group"
  let priorities ← f.field? "Status"
  let counts ← f.field? "Count"
  readColumns groups.values priorities.values counts.values

theorem readColumns_map (rows : List Row) :
    readColumns (rows.map (.str ·.group)) (rows.map (.ofNat ·.priority))
      (rows.map (.ofNat ·.count)) = some rows := by
  induction rows with
  | nil => rfl
  | cons row rows ih =>
    have hrow : readRow (.str row.group) (.ofNat row.priority) (.ofNat row.count) = some row := rfl
    simp [readColumns, hrow, ih]

theorem readFrame_frame (refId : String) (rows : List Row) :
    readFrame (frame refId rows) = some rows := by
  simp only [readFrame, Frame.field?, fields_frame]
  exact readColumns_map rows

end Heatmap

/-! ### What rows do to a frame -/

namespace Frame

/-- Rows leave the reference of a frame and all of its fields, whose values go on with one value of
each row. So fields of one length keep to one length, which is that of the frame if it has a field;
what rows hold under other names makes no difference; and a heatmap's columns give its rows back. -/
theorem rows_appended (f : Frame) (rows : List Record) :
    (f.addAll rows).refId = f.refId ∧
    List.Forall₂ (Field.Continues rows) f.fields (f.addAll rows).fields ∧
    (∀ n, f.IsRectangular n → (f.addAll rows).IsRectangular (n + rows.length) ∧
      (f.fields ≠ [] → (f.addAll rows).length = n + rows.length)) ∧
    (f.fields = [] → (f.addAll rows).length = 0) ∧
    (∀ rows', List.Forall₂ (Agree f.names) rows rows' → f.addAll rows = f.addAll rows') ∧
    ∀ (refId : String) (counts : List Heatmap.Row),
      Heatmap.readFrame (Heatmap.frame refId counts) = some counts := by
  refine ⟨?_, continues_addAll rows f, fun n hn => ⟨hn.addAll rows, fun hne => ?_⟩, fun hnil => ?_,
    fun _ => addAll_congr, Heatmap.readFrame_frame⟩
  · rw [addAll_eq]
  · refine (hn.addAll rows).length_eq ?_
    rw [addAll_eq]
    exact mt List.map_eq_nil_iff.mp hne
  · simp [addAll_eq, hnil, length]

def twins : Frame :=
  ⟨"A",
    [{ name := "Name", type := .string, values := [.str "Core"] },
      { name := "Name", type := .number, values := [.null] }]⟩

def surplusRows : List Record :=
  [[("Extra", .bool true), ("Name", .str "Edge")], [("Other", .str "Core")]]

theorem twins_continued :
    twins.IsRectangular 1 ∧ twins.fields ≠ [] ∧ (twins.addAll surplusRows).IsRectangular 3 ∧
    (twins.addAll surplusRows).length = 3 ∧
    List.Forall₂ (Agree twins.names) surplusRows [[("Name", .str "Edge")], []] ∧
    twins.addAll surplusRows = twins.addAll [[("Name", .str "Edge")], []] := by
  have hrectangular : twins.IsRectangular 1 := by simp [IsRectangular, twins]
  have hne : twins.fields ≠ [] := by simp [twins]
  have hagree : List.Forall₂ (Agree twins.names) surplusRows [[("Name", .str "Edge")], []] := by
    simp [surplusRows, Agree, names, twins, Record.get?]
  obtain ⟨-, -, hlength, -, hsame, -⟩ := rows_appended twins surplusRows
  obtain ⟨hthree, hlen⟩ := hlength 1 hrectangular
  exact ⟨hrectangular, hne, hthree, hlen hne, hagree, hsame _ hagree⟩

end Frame

end SensorFrames
