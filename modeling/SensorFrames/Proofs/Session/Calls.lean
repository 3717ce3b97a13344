import SensorFrames.Session

/-!
What goes over a script. An operation of a client comes to two things: the requests that it sends,
and an outcome that it makes from the answers to just these requests.
-/

set_option autoImplicit false

namespace SensorFrames

namespace Script

/-- The answer to a request that is sent after `j` others. -/
def upcoming (s : Script) (j : Nat) : Except Failure Json :=
  s.answers.getD (s.sent.length + j) noAnswer

def sending (requests : List Request) (s : Script) : Script :=
  { s with sent := s.sent ++ requests }

@[simp] theorem sent_sending (requests : List Request) (s : Script) :
    (s.sending requests).sent = s.sent ++ requests := rfl

@[simp] theorem sending_nil (s : Script) : s.sending [] = s := by simp [sending]

@[simp] theorem sending_sending (requests more : List Request) (s : Script) :
    (s.sending requests).sending more = s.sending (requests ++ more) := by simp [sending]

@[simp] theorem upcoming_sending (j : Nat) (requests : List Request) (s : Script) :
    (s.sending requests).upcoming j = s.upcoming (requests.length + j) := by
  simp [upcoming, sending, Nat.add_assoc]

theorem upcoming_after_one (r : Request) (s : Script) :
    (s.sending [r]).upcoming = fun j => s.upcoming (j + 1) := by
  funext j
  rw [upcoming_sending, List.length_singleton, Nat.add_comm]

end Script

namespace Client

variable (e : Endpoint) (s : Script)

theorem list_script (l : Listing) :
    list ⟨Script.transport, e⟩ l s = (l.outcome (s.upcoming 0), s.sending [l.request e]) := rfl

theorem collect_script (limit : UInt64) (now : Int64) :
    collect ⟨Script.transport, e⟩ limit now s =
      (Metadata.outcome limit now (s.upcoming 0), s.sending [Metadata.request e limit]) := rfl

theorem testConnection_script :
    testConnection ⟨Script.transport, e⟩ s =
      match missing? e with
      | some missing => (.error missing.failure, s)
      | none => (probeOutcome (s.upcoming 0), s.sending [probe.request e]) := rfl

end Client

namespace Session

/-! ### Gets from the cache -/

section Gets

variable {σ : Type} {s : Session σ} {forced : Bool}

theorem metadata_held {m : Metadata} (h : s.cache.enter forced = (.held m, s.cache.toCache)) :
    s.metadata forced = (.ok m, s) := by
  unfold metadata
  split <;> simp_all

theorem metadata_started (h : s.cache.enter forced = s.cache.start) :
    s.metadata forced =
      ((s.client.collect s.metadataLimit s.now s.link).1,
        { s with
          cache := s.cache.start.2.ended (s.cache.generation + 1)
            (s.client.collect s.metadataLimit s.now s.link).1 rfl
          link := (s.client.collect s.metadataLimit s.now s.link).2 }) := by
  unfold metadata
  split
  all_goals simp_all [Cache.start]

end Gets

/-! ### Queries -/

theorem frames_cons (e : Endpoint) (q : Query) (queries : List Query) (s : Script) :
    frames ⟨Script.transport, e⟩ (q :: queries) s =
      (q.frameOf (q.listing.outcome (s.upcoming 0)) ::
          (frames ⟨Script.transport, e⟩ queries (s.sending [q.listing.request e])).1,
        (frames ⟨Script.transport, e⟩ queries (s.sending [q.listing.request e])).2) := rfl

def framesFrom (answer : Nat → Except Failure Json) (queries : List Query) : List Frame :=
  queries.mapIdx fun j q => q.frameOf (q.listing.outcome (answer j))

theorem framesFrom_cons (answer : Nat → Except Failure Json) (q : Query) (queries : List Query) :
    framesFrom answer (q :: queries) =
      q.frameOf (q.listing.outcome (answer 0)) ::
        framesFrom (fun j => answer (j + 1)) queries := by
  simp only [framesFrom, List.mapIdx_cons]

theorem frames_script (e : Endpoint) (queries : List Query) (s : Script) :
    frames ⟨Script.transport, e⟩ queries s =
      (framesFrom s.upcoming queries,
        s.sending (queries.map fun q => q.listing.request e)) := by
  induction queries generalizing s with
  | nil => simp [frames, framesFrom]
  | cons q queries ih =>
    rw [frames_cons, ih, Script.upcoming_after_one, ← framesFrom_cons, Script.sending_sending]
    rfl

end Session

end SensorFrames
