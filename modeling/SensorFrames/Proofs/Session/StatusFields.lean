import SensorFrames.Proofs.Session.Batch
import SensorFrames.Proofs.Table.StatusColumn

/-!
Status fields of a batch. Main statement: in every frame of a batch the values under the settings of
the status are decoded by them, but for a table that was asked for a column `Status` behind its
column `status`.
-/

set_option autoImplicit false

namespace SensorFrames

/-! ### The frame of a query -/

inductive HasRecords : Except Failure Json → List Record → Prop where
  | body {body : Json} {items : List Json} (h : HasItems body items) :
      HasRecords (.ok body) (items.filterMap Json.record?)

theorem HasItems.unique {body : Json} {items items' : List Json} (h : HasItems body items)
    (h' : HasItems body items') : items = items' := by
  cases h with
  | array => cases h'; rfl
  | envelope hdata =>
    cases h' with
    | envelope hdata' => simpa [hdata] using hdata'

theorem Failure.statusDecodes (refId : String) (f : Failure) : (f.frame refId).StatusDecodes := by
  intro d hd hconfig
  rw [Failure.frame, List.mem_singleton] at hd
  rw [hd] at hconfig
  contradiction

theorem Heatmap.statusDecodes (refId : String) (records : List Record) :
    (frame refId (rows records)).StatusDecodes := by
  intro d hd hconfig v hv
  simp only [fields_frame, List.mem_cons, List.not_mem_nil, or_false] at hd
  rcases hd with rfl | rfl | rfl
  · contradiction
  · obtain ⟨row, hrow, rfl⟩ := List.mem_map.mp hv
    exact Status.decodes_ofNat (mem_priorities hrow)
  · contradiction

namespace Query

theorem Shows.statusDecodes_iff {q : Query} {answer : Except Failure Json} {frame : Frame}
    (h : q.Shows answer frame) :
    frame.StatusDecodes ↔
      (q.viewMode = .table → ∀ records, HasRecords answer records →
        Table.Overlaid (Table.columns records q.requestedColumns) →
          ∀ r ∈ records, Status.fieldConfig.Decodes ((r.get? "Status").getD .null)) := by
  cases h with
  | failed f =>
    exact iff_of_true (f.statusDecodes _) fun _ _ hanswer => nomatch hanswer
  | noDataArray hnone =>
    refine iff_of_true (Failure.statusDecodes _ _) fun _ _ hanswer => ?_
    cases hanswer with
    | body hitems => exact absurd hitems (hnone _)
  | noArray _ hnone =>
    refine iff_of_true (Failure.statusDecodes _ _) fun _ _ hanswer => ?_
    cases hanswer with
    | body hitems => exact absurd hitems (hnone _)
  | table hitems hmode =>
    rw [Table.statusDecodes_iff]
    constructor
    · intro hdecodes _ _ hanswer
      cases hanswer with
      | body hitems' =>
        rw [hitems'.unique hitems]
        exact hdecodes
    · exact fun hdecodes => hdecodes hmode _ (.body hitems)
  | heatmap _ hmode =>
    refine iff_of_true (Heatmap.statusDecodes _ _) fun htable => ?_
    rw [hmode] at htable
    contradiction

/-- Without a request for `Status` no column of that name stands behind `status`: derived columns
are in the order of the keys, in which capitals come first. -/
theorem not_overlaid {q : Query} {records : List Record} (hrequested : "Status" ∉ q.requestedColumns)
    (hrising : ∀ r ∈ records, Record.Rising r) :
    ¬ Table.Overlaid (Table.columns records q.requestedColumns) := by
  unfold Table.columns
  split
  · split
    · rintro ⟨before, after, hnil, -⟩
      simp at hnil
    · rename_i first rest
      exact Table.not_overlaid_of_rising (hrising first List.mem_cons_self)
  · rintro ⟨before, after, hcolumns, -⟩
    rw [hcolumns] at hrequested
    exact hrequested (by simp)

end Query

namespace Session

/-- Each frame of a batch is that of a query, and its status decodes unless it is a table in which a
column `Status` stands behind `status`; then it does when the records hold values under that key
that decode. Such a column has to be asked for. -/
theorem status_decodes_iff (e : Endpoint) (b : Batch) (s : Script) {j : Nat} {frame : Frame}
    (h : (answered e b s).1[j]? = some frame) :
    ∃ q, b.visible[j]? = some q ∧
      (frame.StatusDecodes ↔
        (q.viewMode = .table → ∀ records, HasRecords (s.upcoming j) records →
          Table.Overlaid (Table.columns records q.requestedColumns) →
            ∀ r ∈ records, Status.fieldConfig.Decodes ((r.get? "Status").getD .null))) ∧
      ("Status" ∉ q.requestedColumns →
        (∀ records, HasRecords (s.upcoming j) records → ∀ r ∈ records, Record.Rising r) →
          frame.StatusDecodes) := by
  rw [answered_getElem?] at h
  obtain ⟨q, hq, rfl⟩ := Option.map_eq_some_iff.mp h
  have hiff := (q.shows_frameOf (s.upcoming j)).statusDecodes_iff
  refine ⟨q, hq, hiff, fun hrequested hrising => hiff.mpr fun _ records hanswer hoverlaid => ?_⟩
  exact absurd hoverlaid (Query.not_overlaid hrequested (hrising records hanswer))

def labServer : Endpoint := ⟨"https://prtg.local", 1616, "key"⟩

def labelTable (columns : List String) : Query := { refId := "A", columns := some columns }

def labelled : Script := ⟨[.ok (.arr [.obj Table.shadowed])], []⟩

theorem hasRecords_labelled {records : List Record} (h : HasRecords (labelled.upcoming 0) records) :
    records = [Table.shadowed] := by
  generalize hanswer : labelled.upcoming 0 = answer at h
  cases h with
  | body hitems =>
    obtain rfl := Except.ok.inj hanswer
    cases hitems
    rfl

theorem unasked_label_decodes :
    ∃ frame, (answered labServer ⟨[labelTable ["name", "status"]]⟩ labelled).1[0]? = some frame ∧
      "Status" ∉ (labelTable ["name", "status"]).requestedColumns ∧
      (∀ records, HasRecords (labelled.upcoming 0) records → ∀ r ∈ records, Record.Rising r) ∧
      frame.StatusDecodes := by
  have hrising : ∀ records, HasRecords (labelled.upcoming 0) records →
      ∀ r ∈ records, Record.Rising r := by
    intro records hrecords r hr
    rw [hasRecords_labelled hrecords, List.mem_singleton] at hr
    rw [hr, Record.Rising]
    decide
  have hunasked : "Status" ∉ (labelTable ["name", "status"]).requestedColumns := by decide
  have hframe := answered_getElem? (e := labServer) (b := ⟨[labelTable ["name", "status"]]⟩)
    (s := labelled) (j := 0)
  obtain ⟨q, hq, -, hdecodes⟩ := status_decodes_iff labServer _ labelled hframe
  obtain rfl := Option.some.inj hq
  exact ⟨_, hframe, hunasked, hrising, hdecodes hunasked hrising⟩

/-- When it is asked for behind `status`, the field of the status shows the label instead. -/
theorem asked_label_shown :
    ¬ ∀ (e : Endpoint) (b : Batch) (s : Script), ∀ frame ∈ (answered e b s).1,
      frame.StatusDecodes := by
  intro h
  let q := labelTable ["status", "Status"]
  have hframe : (answered labServer ⟨[q]⟩ labelled).1[0]? =
      some (q.frameOf (q.listing.outcome (labelled.upcoming 0))) := answered_getElem?
  have hdecodes := (q.shows_frameOf (labelled.upcoming 0)).statusDecodes_iff.mp
    (h _ _ _ _ (List.mem_of_getElem? hframe))
  have hoverlaid : Table.Overlaid (Table.columns [Table.shadowed] q.requestedColumns) :=
    ⟨["status"], [], rfl, by decide, by decide⟩
  obtain ⟨n, hn, -⟩ := hdecodes rfl [Table.shadowed] (.body (.array _)) hoverlaid Table.shadowed
    (by simp)
  contradiction

end Session

end SensorFrames
