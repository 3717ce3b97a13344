import SensorFrames.Proofs.Session.StatusFields

/-!
Bodies of answers. Main statement: a body is refused when it holds no array of items, and otherwise
counts for the objects among its items only; so sessions whose answers hold the same records give
the same replies, step by step.
-/

set_option autoImplicit false

namespace SensorFrames

/-! ### Answers that hold the same records -/

/-- Either one and the same answer, or two bodies with the same records. -/
inductive SameContent : Except Failure Json → Except Failure Json → Prop where
  | same (answer : Except Failure Json) : SameContent answer answer
  | records {answer answer' : Except Failure Json} {records : List Record}
      (h : HasRecords answer records) (h' : HasRecords answer' records) :
      SameContent answer answer'

/-- The second list is the first with items put in that are no objects. -/
inductive Padded : List Json → List Json → Prop where
  | nil : Padded [] []
  | kept (item : Json) {items padded : List Json} (h : Padded items padded) :
      Padded (item :: items) (item :: padded)
  | inserted {item : Json} (hitem : ∀ members, item ≠ .obj members) {items padded : List Json}
      (h : Padded items padded) : Padded items (item :: padded)

theorem Padded.records_eq {items padded : List Json} (h : Padded items padded) :
    padded.filterMap Json.record? = items.filterMap Json.record? := by
  induction h with
  | nil => rfl
  | kept item _ ih => rw [List.filterMap_cons, List.filterMap_cons, ih]
  | @inserted item hitem _ _ _ ih =>
    have hnone : item.record? = none := by
      cases item with
      | obj members => exact absurd rfl (hitem members)
      | _ => rfl
    rw [List.filterMap_cons_none hnone, ih]

theorem HasRecords.exists_body {answer : Except Failure Json} {records : List Record}
    (h : HasRecords answer records) : ∃ body, answer = .ok body := by
  obtain ⟨-⟩ := h
  exact ⟨_, rfl⟩

theorem sameContent_envelope {members : Record} {items : List Json}
    (h : members.get? "data" = some (.arr items)) :
    SameContent (.ok (.arr items)) (.ok (.obj members)) :=
  .records (.body (.array items)) (.body (.envelope h))

theorem sameContent_padded {items padded : List Json} (h : Padded items padded) :
    SameContent (.ok (.arr items)) (.ok (.arr padded)) := by
  refine .records (.body (.array items)) ?_
  rw [← h.records_eq]
  exact .body (.array padded)

/-! ### What becomes of a body -/

namespace Listing

theorem items_of_hasItems {body : Json} {items : List Json} (h : HasItems body items) :
    Listing.items body = .ok items := by
  cases h with
  | array => rfl
  | envelope hdata => simp [Listing.items, hdata]

theorem outcome_ok (l : Listing) (body : Json) : l.outcome (.ok body) = l.page body := rfl

theorem outcome_of_hasRecords {answer : Except Failure Json} {records : List Record}
    (h : HasRecords answer records) (l : Listing) :
    l.outcome answer = .ok ⟨records, records.length, l.offset.getD 0, l.limit.getD 0⟩ := by
  cases h with
  | @body body items hitems =>
    rw [outcome_ok, page, recordsOf, items_of_hasItems hitems]
    rfl

theorem outcome_of_no_items {body : Json} (h : ∀ items, ¬ HasItems body items) :
    ∃ detail, ∀ l : Listing, l.outcome (.ok body) = .error (.unexpectedBody detail) := by
  cases hitems : items body with
  | ok found => exact absurd (hasItems_of_items hitems) (h found)
  | error fault =>
    obtain ⟨detail, hdetail⟩ : ∃ detail, fault.failure = .unexpectedBody detail := by
      cases fault <;> exact ⟨_, rfl⟩
    refine ⟨detail, fun l => ?_⟩
    rw [outcome_ok, page, recordsOf, hitems, ← hdetail]
    rfl

theorem outcome_unexpected_iff {body : Json} (l : Listing) :
    (∃ detail, l.outcome (.ok body) = .error (.unexpectedBody detail)) ↔
      ∀ items, ¬ HasItems body items := by
  constructor
  · rintro ⟨detail, hfailed⟩ items hitems
    rw [outcome_of_hasRecords (.body hitems)] at hfailed
    contradiction
  · intro hnone
    obtain ⟨detail, hfailed⟩ := outcome_of_no_items hnone
    exact ⟨detail, hfailed l⟩

end Listing

theorem Metadata.outcome_unexpected_iff {body : Json} (limit : UInt64) (now : Int64) :
    (∃ detail, Metadata.outcome limit now (.ok body) = .error (.unexpectedBody detail)) ↔
      ∀ items, ¬ HasItems body items := by
  rw [← (listing limit).outcome_unexpected_iff, Metadata.outcome]
  cases (listing limit).outcome (.ok body) <;> simp [Except.map]

namespace SameContent

variable {answer answer' : Except Failure Json}

theorem listed (h : SameContent answer answer') (l : Listing) :
    l.outcome answer = l.outcome answer' := by
  cases h with
  | same => rfl
  | records h h' => rw [Listing.outcome_of_hasRecords h, Listing.outcome_of_hasRecords h']

theorem collected (h : SameContent answer answer') (limit : UInt64) (now : Int64) :
    Metadata.outcome limit now answer = Metadata.outcome limit now answer' := by
  rw [Metadata.outcome, Metadata.outcome, h.listed]

theorem probed (h : SameContent answer answer') :
    Client.probeOutcome answer = Client.probeOutcome answer' := by
  cases h with
  | same => rfl
  | records h h' =>
    obtain ⟨body, rfl⟩ := h.exists_body
    obtain ⟨body', rfl⟩ := h'.exists_body
    rfl

end SameContent

/-! ### Sessions over answers that are alike -/

namespace Script

abbrev client (e : Endpoint) : Client Script := ⟨transport, e⟩

/-- The same requests were sent, and the answers to come have the same content. -/
structure Alike (s s' : Script) : Prop where
  sent : s.sent = s'.sent
  answers : ∀ j, SameContent (s.upcoming j) (s'.upcoming j)

theorem Alike.sending {s s' : Script} (h : s.Alike s') (requests : List Request) :
    (s.sending requests).Alike (s'.sending requests) := by
  refine ⟨congrArg (· ++ requests) h.sent, fun j => ?_⟩
  rw [upcoming_sending, upcoming_sending]
  exact h.answers _

end Script

namespace Session

/-- Two sessions that differ in nothing but answers that are alike. -/
inductive Alike : Session Script → Session Script → Prop where
  | linked (e : Endpoint) (limit : UInt64) (cache : Cache.Idle) (clock : Nat → Int64) (time : Nat)
      {link link' : Script} (h : link.Alike link') :
      Alike ⟨Script.client e, limit, cache, link, clock, time⟩
        ⟨Script.client e, limit, cache, link', clock, time⟩

theorem framesFrom_alike {answer answer' : Nat → Except Failure Json}
    (h : ∀ j, SameContent (answer j) (answer' j)) (queries : List Query) :
    framesFrom answer queries = framesFrom answer' queries := by
  have hframe : (fun (j : Nat) (q : Query) => q.frameOf (q.listing.outcome (answer j))) =
      fun j q => q.frameOf (q.listing.outcome (answer' j)) := by
    funext j q
    rw [(h j).listed]
  rw [framesFrom, framesFrom, hframe]

theorem testConnection_alike (e : Endpoint) {link link' : Script} (h : link.Alike link') :
    ((Script.client e).testConnection link).1 = ((Script.client e).testConnection link').1 ∧
      ((Script.client e).testConnection link).2.Alike
        ((Script.client e).testConnection link').2 := by
  rw [Client.testConnection_script, Client.testConnection_script]
  cases Client.missing? e with
  | some missing => exact ⟨rfl, h⟩
  | none => exact ⟨(h.answers 0).probed, h.sending _⟩

variable {s s' : Session Script}

theorem Alike.tick (h : s.Alike s') : s.tick.Alike s'.tick := by
  cases h with
  | linked e limit cache clock time h => exact .linked e limit cache clock (time + 1) h

theorem Alike.metadata (h : s.Alike s') (forced : Bool) :
    (s.metadata forced).1 = (s'.metadata forced).1 ∧
      (s.metadata forced).2.Alike (s'.metadata forced).2 := by
  have hsession := h
  cases h with
  | linked e limit cache clock time h =>
    rcases cache.enter_cases forced with ⟨m, hheld⟩ | hstarted
    · rw [metadata_held hheld, metadata_held hheld]
      exact ⟨rfl, hsession⟩
    · rw [metadata_started hstarted, metadata_started hstarted]
      simp only [now, Client.collect_script, (h.answers 0).collected]
      exact ⟨trivial, .linked e limit _ clock time (h.sending _)⟩

theorem Alike.act (h : s.Alike s') (step : Step) :
    (s.act step).1 = (s'.act step).1 ∧ (s.act step).2.Alike (s'.act step).2 := by
  have hsession := h
  cases h with
  | linked e limit cache clock time h =>
    cases step with
    | query request =>
      simp only [Session.act]
      cases Batch.decode request with
      | error fault => exact ⟨rfl, hsession⟩
      | ok b =>
        simp only [frames_script, framesFrom_alike h.answers]
        exact ⟨trivial, .linked e limit cache clock time (h.sending _)⟩
    | health =>
      obtain ⟨houtcome, hlink⟩ := testConnection_alike e h
      simp only [Session.act, houtcome]
      exact ⟨trivial, .linked e limit cache clock time hlink⟩
    | alive => exact ⟨rfl, hsession⟩
    | metadata forced =>
      obtain ⟨houtcome, hnext⟩ := hsession.metadata forced
      simp only [Session.act, houtcome]
      exact ⟨trivial, hnext⟩
    | metadataPage query =>
      simp only [Session.act]
      cases Refresh.ofQuery query with
      | error fault => exact ⟨rfl, hsession⟩
      | ok forced =>
        obtain ⟨houtcome, hnext⟩ := hsession.metadata forced
        simp only [houtcome]
        exact ⟨trivial, hnext⟩
    | objects l =>
      simp only [Session.act, Client.list_script, (h.answers 0).listed]
      exact ⟨trivial, .linked e limit cache clock time (h.sending _)⟩
    | testConnection =>
      obtain ⟨houtcome, hlink⟩ := testConnection_alike e h
      simp only [Session.act, houtcome]
      exact ⟨trivial, .linked e limit cache clock time hlink⟩
    | collect n =>
      simp only [Session.act, now, Client.collect_script, (h.answers 0).collected]
      exact ⟨trivial, .linked e limit cache clock time (h.sending _)⟩

theorem Alike.step (h : s.Alike s') (step : Step) :
    (s.step step).1 = (s'.step step).1 ∧ (s.step step).2.Alike (s'.step step).2 :=
  ⟨(h.act step).1, (h.act step).2.tick⟩

theorem Alike.run (h : s.Alike s') (steps : List Step) :
    (s.run steps).1 = (s'.run steps).1 ∧ (s.run steps).2.Alike (s'.run steps).2 := by
  induction steps generalizing s s' with
  | nil => exact ⟨rfl, h⟩
  | cons step steps ih =>
    obtain ⟨hreply, hnext⟩ := h.step step
    obtain ⟨hreplies, hlast⟩ := ih hnext
    exact ⟨congrArg₂ List.cons hreply hreplies, hlast⟩

/-! ### Single operations -/

variable {e : Endpoint} {script : Script} {body : Json}

theorem frames_single (q : Query) :
    (frames (Script.client e) [q] script).1 =
      [q.frameOf (q.listing.outcome (script.upcoming 0))] := rfl

theorem refused_frame (hbody : script.upcoming 0 = .ok body)
    (hnone : ∀ items, ¬ HasItems body items) (q : Query) :
    ∃ detail, (frames (Script.client e) [q] script).1 =
      [(Failure.unexpectedBody detail).frame q.refId] := by
  obtain ⟨detail, hfailed⟩ := Listing.outcome_of_no_items hnone
  refine ⟨detail, ?_⟩
  rw [frames_single, hbody, hfailed]
  rfl

theorem received_records {records : List Record} (h : HasRecords (script.upcoming 0) records)
    (l : Listing) (limit : UInt64) (now : Int64) (q : Query) :
    ((Script.client e).list l script).1 =
        .ok ⟨records, records.length, l.offset.getD 0, l.limit.getD 0⟩ ∧
      ((Script.client e).collect limit now script).1 = .ok (Metadata.ofRecords now records) ∧
      (frames (Script.client e) [q] script).1 = [q.shape records] := by
  rw [Client.list_script, Client.collect_script, frames_single, Metadata.outcome]
  simp only [Listing.outcome_of_hasRecords h]
  exact ⟨trivial, rfl, rfl⟩

/-- A listing and a collection of metadata refuse a body just when it holds no array of items, and
the frame of a query then tells so. Of any other body they show the objects among the items, and
count these. Sessions whose answers hold the same records make the same replies and requests; and
such answers are an array, an object that holds it under `data`, and the array with other items put
in. -/
theorem decoding_transparent (settings : Settings) (clock : Nat → Int64) (script : Script) :
    (∀ body, script.upcoming 0 = .ok body →
      ∀ (l : Listing) (limit : UInt64) (now : Int64) (q : Query),
      ((∃ detail, ((Script.client settings.endpoint).list l script).1 =
          .error (.unexpectedBody detail)) ↔ ∀ items, ¬ HasItems body items) ∧
      ((∃ detail, ((Script.client settings.endpoint).collect limit now script).1 =
          .error (.unexpectedBody detail)) ↔ ∀ items, ¬ HasItems body items) ∧
      ((∀ items, ¬ HasItems body items) →
        ∃ detail, (frames (Script.client settings.endpoint) [q] script).1 =
          [(Failure.unexpectedBody detail).frame q.refId]) ∧
      (∀ items, HasItems body items →
        let records := items.filterMap Json.record?
        ((Script.client settings.endpoint).list l script).1 =
            .ok ⟨records, records.length, l.offset.getD 0, l.limit.getD 0⟩ ∧
          ((Script.client settings.endpoint).collect limit now script).1 =
            .ok (Metadata.ofRecords now records) ∧
          (frames (Script.client settings.endpoint) [q] script).1 = [q.shape records])) ∧
    (∀ script' : Script, script.Alike script' → ∀ steps : List Step,
      ((ofSettings Script.transport settings script clock).run steps).1 =
          ((ofSettings Script.transport settings script' clock).run steps).1 ∧
        ((ofSettings Script.transport settings script clock).run steps).2.Alike
          ((ofSettings Script.transport settings script' clock).run steps).2) ∧
    (∀ (items : List Json) (members : Record), members.get? "data" = some (.arr items) →
      SameContent (.ok (.arr items)) (.ok (.obj members))) ∧
    (∀ items padded : List Json, Padded items padded →
      SameContent (.ok (.arr items)) (.ok (.arr padded))) := by
  refine ⟨fun body hbody l limit now q => ⟨?list, ?collect, ?refused, ?received⟩, ?sessions,
    fun _ _ => sameContent_envelope, fun _ _ => sameContent_padded⟩
  case list =>
    rw [Client.list_script, hbody]
    exact l.outcome_unexpected_iff
  case collect =>
    rw [Client.collect_script, hbody]
    exact Metadata.outcome_unexpected_iff limit now
  case refused => exact fun hnone => refused_frame hbody hnone q
  case received =>
    exact fun items hitems => received_records (hbody ▸ .body hitems) l limit now q
  case sessions =>
    intro script' halike steps
    exact (Alike.linked settings.endpoint settings.metadataLimit {} clock 0 halike).run steps

def pingRecord : Record := [("group", .str "Lab"), ("status", .str "Up")]

def labSettings : Settings := { url := "https://prtg.local", key := "key" }

def bare : Script := ⟨[.ok (.arr [.obj pingRecord])], []⟩

def wrapped : Script :=
  ⟨[.ok (.obj [("data", .arr [.null, .obj pingRecord, .str "x"]), ("total", .ofNat 7)])], []⟩

def refused : Script := ⟨[.ok (.obj [("data", .obj [("data", .arr [])])])], []⟩

theorem wrapped_record_counts :
    bare.Alike wrapped ∧
    ((ofSettings Script.transport labSettings bare).run [.metadata false, .objects {}]).1 =
      ((ofSettings Script.transport labSettings wrapped).run [.metadata false, .objects {}]).1 ∧
    ((Script.client labSettings.endpoint).list {} wrapped).1 = .ok ⟨[pingRecord], 1, 0, 0⟩ ∧
    (∃ detail, ((Script.client labSettings.endpoint).collect 5 7 refused).1 =
      .error (.unexpectedBody detail)) ∧
    (∃ detail, (frames (Script.client labSettings.endpoint) [{ refId := "A" }] refused).1 =
      [(Failure.unexpectedBody detail).frame "A"]) ∧
    SameContent (.ok (.arr [.null])) (.ok (.obj [("data", .arr [.null])])) ∧
    Padded [] [.null] ∧ SameContent (.ok (.arr [])) (.ok (.arr [.null])) := by
  have hbare : HasRecords (bare.upcoming 0) [pingRecord] := .body (.array _)
  have hwrapped : HasRecords (wrapped.upcoming 0) [pingRecord] :=
    .body (@HasItems.envelope _ [.null, .obj pingRecord, .str "x"] rfl)
  have halike : bare.Alike wrapped := by
    refine ⟨rfl, fun j => ?_⟩
    cases j with
    | zero => exact .records hbare hwrapped
    | succ j => exact .same _
  have hnone : ∀ items, ¬ HasItems (.obj [("data", .obj [("data", .arr [])])]) items := by
    intro items hitems
    cases hitems with
    | envelope hdata => simp [Record.get?] at hdata
  have hpadded : Padded [] [.null] := .inserted (by simp) .nil
  obtain ⟨hwrappedBody, -, hbodies, hpaddedBodies⟩ :=
    decoding_transparent labSettings (fun _ => 0) wrapped
  obtain ⟨hrefusedBody, -⟩ := decoding_transparent labSettings (fun _ => 0) refused
  obtain ⟨-, hsessions, -⟩ := decoding_transparent labSettings (fun _ => 0) bare
  obtain ⟨-, -, -, hreceived⟩ := hwrappedBody _ rfl {} 5 7 {}
  obtain ⟨-, hcollect, hframe, -⟩ := hrefusedBody _ rfl {} 5 7 { refId := "A" }
  exact ⟨halike, (hsessions wrapped halike _).1, (hreceived _ (.envelope rfl)).1,
    hcollect.mpr hnone, hframe hnone, hbodies _ _ rfl, hpadded, hpaddedBodies _ _ hpadded⟩

end Session

end SensorFrames
