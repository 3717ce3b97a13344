import SensorFrames.Proofs.Frame.Rows
import SensorFrames.Proofs.Session.Calls

/-!
A batch of queries. Main statement: each query that is not hidden makes one call and gets one frame,
in its order, and the frame is decided by this query and the answer to its call alone.
-/

set_option autoImplicit false

namespace SensorFrames

/-! ### The frame of a query -/

/-- The items of a body: it is an array of them, or an object with one under `data`. -/
inductive HasItems : Json → List Json → Prop where
  | array (items : List Json) : HasItems (.arr items) items
  | envelope {members : Record} {items : List Json}
      (h : members.get? "data" = some (.arr items)) : HasItems (.obj members) items

def Failure.frame (refId : String) (f : Failure) : Frame :=
  ⟨refId, [{ name := "Error", type := .string,
             values := [.str ("Failed to fetch data: " ++ f.message)] }]⟩

/-- The frame that a query shows for an answer. -/
inductive Query.Shows (q : Query) : Except Failure Json → Frame → Prop where
  | failed (f : Failure) : Shows q (.error f) (f.frame q.refId)
  | noDataArray {members : Record} (h : ∀ items, ¬ HasItems (.obj members) items) :
      Shows q (.ok (.obj members))
        (Failure.frame q.refId (.unexpectedBody "object without a data array"))
  | noArray {body : Json} (hobject : ∀ members, body ≠ .obj members)
      (h : ∀ items, ¬ HasItems body items) :
      Shows q (.ok body)
        (Failure.frame q.refId (.unexpectedBody ("expected array, got " ++ body.text)))
  | table {body : Json} {items : List Json} (h : HasItems body items)
      (hmode : q.viewMode = .table) :
      Shows q (.ok body) (Table.frame q.refId (items.filterMap Json.record?) q.requestedColumns)
  | heatmap {body : Json} {items : List Json} (h : HasItems body items)
      (hmode : q.viewMode = .heatmap) :
      Shows q (.ok body)
        (Heatmap.frame q.refId (Heatmap.rows (items.filterMap Json.record?)))

namespace Listing

def BodyFault.Blames : BodyFault → Json → Prop
  | noDataArray, body => ∃ members, body = .obj members
  | noArray blamed, body => blamed = body ∧ ∀ members, body ≠ .obj members

theorem hasItems_of_items {body : Json} {items : List Json} (h : Listing.items body = .ok items) :
    HasItems body items := by
  unfold Listing.items at h
  split at h
  · cases h
    exact .array items
  · split at h
    · rename_i hdata
      cases h
      exact .envelope hdata
    · cases h
  · cases h

theorem blames_of_items {body : Json} {fault : BodyFault} (h : items body = .error fault) :
    (∀ items, ¬ HasItems body items) ∧ fault.Blames body := by
  unfold items at h
  split at h
  · cases h
  · rename_i members
    split at h
    · cases h
    · rename_i hdata
      cases h
      refine ⟨fun items hitems => ?_, members, rfl⟩
      cases hitems with
      | envelope hsome => exact hdata items hsome
  · rename_i harray hobject
    cases h
    refine ⟨fun items hitems => ?_, rfl, hobject⟩
    cases hitems with
    | array => exact harray items rfl
    | envelope => exact hobject _ rfl

end Listing

namespace Query

theorem shows_frameOf (q : Query) (answer : Except Failure Json) :
    q.Shows answer (q.frameOf (q.listing.outcome answer)) := by
  cases answer with
  | error f => exact .failed f
  | ok body =>
    have houtcome : q.listing.outcome (.ok body) = q.listing.page body := rfl
    rw [houtcome, Listing.page, Listing.recordsOf]
    cases hitems : Listing.items body with
    | ok items =>
      have hbody := Listing.hasItems_of_items hitems
      cases hmode : q.viewMode with
      | table => simpa [frameOf, shape, hmode, Except.map] using Shows.table hbody hmode
      | heatmap => simpa [frameOf, shape, hmode, Except.map] using Shows.heatmap hbody hmode
    | error fault =>
      obtain ⟨hnone, hblames⟩ := Listing.blames_of_items hitems
      cases fault with
      | noDataArray =>
        obtain ⟨members, rfl⟩ := hblames
        exact .noDataArray hnone
      | noArray blamed =>
        obtain ⟨rfl, hobject⟩ := hblames
        exact .noArray hobject hnone

theorem Shows.refId {q : Query} {answer : Except Failure Json} {frame : Frame}
    (h : q.Shows answer frame) : frame.refId = q.refId := by
  cases h with
  | failed | noDataArray | noArray => rfl
  | table => rw [Table.frame, Frame.addAll_eq]
  | heatmap => rw [Heatmap.frame, Frame.addAll_eq]

end Query

/-! ### The queries of a batch -/

namespace Batch

variable {before after : List Query} {q old new hidden : Query}

theorem visible_hidden (h : hidden.hide = true) :
    visible ⟨before ++ hidden :: after⟩ = visible ⟨before ++ after⟩ := by
  simp [visible, h]

theorem visible_shown (h : q.hide = false) :
    visible ⟨before ++ q :: after⟩ = visible ⟨before⟩ ++ q :: visible ⟨after⟩ := by
  simp [visible, h]

theorem visible_replaced (hold : old.hide = false) (hnew : new.hide = false) {j : Nat}
    (hj : j ≠ (visible ⟨before⟩).length) :
    (visible ⟨before ++ new :: after⟩)[j]? = (visible ⟨before ++ old :: after⟩)[j]? := by
  rw [visible_shown hold, visible_shown hnew]
  rcases Nat.lt_or_gt_of_ne hj with hlt | hgt
  · rw [List.getElem?_append_left hlt, List.getElem?_append_left hlt]
  · obtain ⟨k, rfl⟩ : ∃ k, j = (visible ⟨before⟩).length + (k + 1) :=
      ⟨j - (visible ⟨before⟩).length - 1, by omega⟩
    rw [List.getElem?_append_right (by omega), List.getElem?_append_right (by omega)]
    simp

end Batch

/-! ### Batches over a script -/

namespace Session

/-- The frames of a batch that is sent over a script, and the script after it. -/
def answered (e : Endpoint) (b : Batch) (s : Script) : List Frame × Script :=
  frames ⟨Script.transport, e⟩ b.visible s

variable {e e' : Endpoint} {b b' : Batch} {s s' : Script} {j : Nat}

theorem answered_getElem? :
    (answered e b s).1[j]? =
      b.visible[j]?.map fun q => q.frameOf (q.listing.outcome (s.upcoming j)) := by
  rw [answered, frames_script, framesFrom, List.getElem?_mapIdx]

theorem answered_isolated (hquery : b'.visible[j]? = b.visible[j]?)
    (hanswer : s'.upcoming j = s.upcoming j) :
    (answered e' b' s').1[j]? = (answered e b s).1[j]? := by
  rw [answered_getElem?, answered_getElem?, hquery, hanswer]

/-- The frames of a batch stand for its visible queries, one for one, and no query or answer tells
on the frame of another. -/
theorem frames_aligned_and_isolated (e : Endpoint) (b : Batch) (s : Script) :
    (answered e b s).2 = s.sending (b.visible.map fun q => q.listing.request e) ∧
    (answered e b s).1.length = b.visible.length ∧
    (∀ (j : Nat) (q : Query), b.visible[j]? = some q →
      ∃ frame : Frame, (answered e b s).1[j]? = some frame ∧ frame.refId = q.refId ∧
        q.Shows (s.upcoming j) frame) ∧
    (∀ (e' : Endpoint) (b' : Batch) (s' : Script) (j : Nat),
      b'.visible[j]? = b.visible[j]? → s'.upcoming j = s.upcoming j →
        (answered e' b' s').1[j]? = (answered e b s).1[j]?) ∧
    (∀ (before : List Query) (old new : Query) (after : List Query) (j : Nat),
      b.targets = before ++ old :: after → old.hide = false → new.hide = false →
      j ≠ (Batch.visible ⟨before⟩).length →
        (answered e ⟨before ++ new :: after⟩ s).1[j]? = (answered e b s).1[j]?) ∧
    (∀ (before : List Query) (hidden : Query) (after : List Query),
      b.targets = before ++ hidden :: after → hidden.hide = true →
        answered e ⟨before ++ after⟩ s = answered e b s) := by
  obtain ⟨targets⟩ := b
  refine ⟨by rw [answered, frames_script], by simp [answered, frames_script, framesFrom],
    fun j q hq => ?shown, fun e' b' s' j => answered_isolated, ?replaced, ?removed⟩
  case shown =>
    have hshows := q.shows_frameOf (s.upcoming j)
    exact ⟨_, by rw [answered_getElem?, hq, Option.map_some], hshows.refId, hshows⟩
  case replaced =>
    rintro before old new after j rfl hold hnew hj
    exact answered_isolated (Batch.visible_replaced hold hnew hj) rfl
  case removed =>
    rintro before hidden after rfl hhide
    rw [answered, answered, Batch.visible_hidden hhide]

theorem failing_query_isolated :
    let e : Endpoint := ⟨"https://prtg.local", 1616, "key"⟩
    let failing : Query := { refId := "A", groups := ["lab"] }
    let hidden : Query := { refId := "B", hide := true }
    let heatmap : Query := { refId := "C", viewMode := .heatmap }
    let b : Batch := ⟨[failing, hidden, heatmap]⟩
    let s : Script := ⟨[.error (.transport "timeout"), .ok (.arr [])], []⟩
    b.visible[1]? = some heatmap ∧
      (∃ frame, (answered e b s).1[1]? = some frame ∧ frame.refId = "C" ∧
        heatmap.Shows (.ok (.arr [])) frame) ∧
      (answered e b ⟨[.ok .null, .ok (.arr [])], []⟩).1[1]? = (answered e b s).1[1]? ∧
      (answered e ⟨[{ failing with limit := some 5 }, hidden, heatmap]⟩ s).1[1]? =
        (answered e b s).1[1]? ∧
      answered e ⟨[failing, heatmap]⟩ s = answered e b s := by
  intro e failing hidden heatmap b s
  obtain ⟨-, -, hshown, hisolated, hreplaced, hremoved⟩ := frames_aligned_and_isolated e b s
  exact ⟨rfl, hshown 1 heatmap rfl, hisolated e b ⟨[.ok .null, .ok (.arr [])], []⟩ 1 rfl rfl,
    hreplaced [] failing { failing with limit := some 5 } [hidden, heatmap] 1 rfl rfl rfl
      (by decide),
    hremoved [failing] hidden [heatmap] rfl rfl⟩

end Session

end SensorFrames
