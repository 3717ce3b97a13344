import SensorFrames.Proofs.Session.Memo
import SensorFrames.Proofs.Waiting.Run

/-!
A session as the only caller of a cache with waiters. Main statement: when the answers are there
before the gets, each get of the session is a get of that cache, polled once, with the same outcome,
the same call and the same cache after it.
-/

set_option autoImplicit false

namespace SensorFrames

namespace Waiting

variable {w : Waiting}

/-- A get that no fetch is pending for, when the answer to the next call is there: it is served from
the cache, or ends a fetch of its own. -/
theorem get_alone (h : Consistent w) (hidle : ∀ g, w.cache.phase ≠ .pending g)
    {answer : Except Failure Json} (hanswer : w.answers.lookup w.calls.length = some answer)
    (id : String) (forced : Bool) :
    (∃ m, forced = false ∧ w.cache.phase = .resolved m ∧
      w.step (.get id forced) = ticked (.done (.ok m), w.leave id)) ∨
    ((forced = true ∨ w.cache.phase = .empty) ∧
      (w.step (.get id forced)).1 = .done (w.outcomeOf answer) ∧
      (w.step (.get id forced)).2.cache =
        ⟨Cache.phaseAfter (w.outcomeOf answer), w.cache.generation + 1⟩ ∧
      (w.step (.get id forced)).2.calls = w.calls ++ [Metadata.request w.endpoint w.limit]) := by
  by_cases hs : w.starts forced = true
  · refine .inr ⟨by simpa [starts] using hs, ?_⟩
    have hseated := seated_generation id forced w
    have hcalls := seated_calls id forced w
    rw [if_pos hs] at hseated hcalls
    have hheld : forced = false → ∀ m, w.cache.phase ≠ .resolved m := by
      rintro rfl m hm
      simp [starts, hm] at hs
    obtain ⟨hdone, hcache, hstep⟩ := get_settles h id hseated hheld
      (h.outcome?_of_lt (Nat.lt_succ_self _)) (h.calls ▸ hanswer)
    exact ⟨hdone, hcache, hstep.trans hcalls⟩
  · simp only [starts, Bool.or_eq_true, decide_eq_true_eq, not_or, Bool.not_eq_true] at hs
    obtain ⟨rfl, hempty⟩ := hs
    cases hphase : w.cache.phase with
    | empty => exact absurd hphase hempty
    | pending g => exact absurd hphase (hidle g)
    | resolved m =>
      exact .inl ⟨m, rfl, rfl, by simp [step, act, get, Cache.enter, hphase]⟩

end Waiting

namespace Session

variable {s : Session Script} {w : Waiting} {step : Step}

/-! ### Steps side by side -/

def Step.forced? : Step → Option Bool
  | .metadata forced => some forced
  | .metadataPage text => (Refresh.ofQuery text).toOption
  | _ => none

theorem Step.asks_iff {forced : Bool} : step.Asks forced ↔ step.forced? = some forced := by
  constructor
  · intro h
    cases h with
    | direct => rfl
    | page h => simp [forced?, Refresh.ofQuery_eq_iff.mpr h, Except.toOption]
  · intro h
    cases step with
    | metadata other =>
      obtain rfl := Option.some.inj h
      exact .direct other
    | metadataPage text =>
      refine .page (Refresh.ofQuery_eq_iff.mp ?_)
      cases hquery : Refresh.ofQuery text <;> simp_all [forced?, Except.toOption]
    | _ => cases h

/-- What the cache with waiters does while a session does a step: the answer to the next call is set
and the get is made, or it lets two steps pass. -/
def shadow (s : Session Script) (step : Step) : List Waiting.Step :=
  match step.forced? with
  | some forced => [.respond s.cache.generation (s.link.upcoming 0), .get "" forced]
  | none => [.drop "", .drop ""]

def shadows : Session Script → List Step → List Waiting.Step
  | _, [] => []
  | s, step :: steps => s.shadow step ++ shadows (s.step step).2 steps

/-- The two have the same cache, and a step of the session lasts two steps of the other. -/
structure Mirrors (s : Session Script) (w : Waiting) : Prop where
  consistent : Waiting.Consistent w
  client : s.client = ⟨Script.transport, w.endpoint⟩
  limit : s.metadataLimit = w.limit
  cache : s.cache.toCache = w.cache
  clock : w.clock = fun n => s.clock (n / 2)
  time : w.time = 2 * s.time

/-- What the events of a session have to do with the replies and the calls of the cache with
waiters. -/
inductive Echoes : List Event → List Waiting.Reply → List Request → Prop where
  | nil : Echoes [] [] []
  | asking {event : Event} {forced : Bool} {outcome : Outcome} {events : List Event}
      {replies : List Waiting.Reply} {calls : List Request} (hstep : event.step.Asks forced)
      (h : Tells event.step outcome event.reply) (hrest : Echoes events replies calls) :
      Echoes (event :: events) (.answerSet :: .done outcome :: replies) (event.calls ++ calls)
  | other {event : Event} {events : List Event} {first second : Waiting.Reply}
      {replies : List Waiting.Reply} {calls : List Request}
      (hstep : ∀ forced, ¬ event.step.Asks forced) (hrest : Echoes events replies calls) :
      Echoes (event :: events) (first :: second :: replies) calls

namespace Mirrors

theorem next (h : Mirrors s w) {steps : List Waiting.Step} (hlength : steps.length = 2)
    {cache : Cache.Idle} {link : Script} (hcache : cache.toCache = (w.after steps).cache) :
    Mirrors { s with cache, link }.tick (w.after steps) := by
  have hlater := Waiting.later_after h.consistent steps
  have htime := Waiting.after_time h.consistent steps
  constructor
  case consistent => exact Waiting.after_consistent h.consistent steps
  case client => rw [hlater.endpoint]; exact h.client
  case limit => rw [hlater.limit]; exact h.limit
  case cache => exact hcache
  case clock => rw [hlater.clock]; exact h.clock
  case time => rw [htime, hlength, h.time]; rfl

theorem outcomeOf_responded (h : Mirrors s w) (call : Nat) (answer next : Except Failure Json) :
    (w.step (.respond call answer)).2.outcomeOf next =
      Metadata.outcome s.metadataLimit s.now next := by
  have htime : (w.step (.respond call answer)).2.time = 2 * s.time + 1 := congrArg (· + 1) h.time
  have hnow : (w.step (.respond call answer)).2.now = s.now := by
    rw [Waiting.now, htime, now]
    exact (congrFun h.clock _).trans (congrArg s.clock (by omega))
  rw [Waiting.outcomeOf, hnow, h.limit]
  rfl

theorem asking (h : Mirrors s w) {forced : Bool} (hstep : step.Asks forced) :
    ∃ outcome, Tells step outcome (s.event step).reply ∧
      w.replies (s.shadow step) = [.answerSet, .done outcome] ∧
      (w.after (s.shadow step)).calls = w.calls ++ (s.event step).calls ∧
      Mirrors (s.step step).2 (w.after (s.shadow step)) := by
  have hshadow : s.shadow step =
      [.respond w.calls.length (s.link.upcoming 0), .get "" forced] := by
    rw [shadow, Step.asks_iff.mp hstep, h.consistent.calls, ← h.cache]
  let v := (w.step (.respond w.calls.length (s.link.upcoming 0))).2
  have hv : Waiting.Consistent v := (Waiting.step_transition h.consistent _).consistent h.consistent
  have hcache : v.cache = s.cache.toCache := h.cache.symm
  have hidle : ∀ g, v.cache.phase ≠ .pending g := hcache ▸ s.cache.noFetch
  have houtcome := h.outcomeOf_responded w.calls.length (s.link.upcoming 0) (s.link.upcoming 0)
  have hanswer : v.answers.lookup v.calls.length = some (s.link.upcoming 0) :=
    List.lookup_cons_self
  obtain ⟨reply, htells, hreply⟩ := asking_step (s := s) hstep
  rw [hshadow]
  have hreplies : w.replies
      [.respond w.calls.length (s.link.upcoming 0), .get "" forced] =
        [.answerSet, (v.step (.get "" forced)).1] := rfl
  have hafter : w.after [.respond w.calls.length (s.link.upcoming 0), .get "" forced] =
      (v.step (.get "" forced)).2 := rfl
  rw [hreplies]
  rcases Waiting.get_alone hv hidle hanswer "" forced with ⟨m, rfl, hphase, hget⟩ |
    ⟨hstarts, hdone, hnext, hcalls⟩
  · rw [metadata_recalled (hcache ▸ hphase)] at htells hreply
    have hevent := event_eq hreply (Script.sending_nil _).symm
    rw [hevent, hreply]
    refine ⟨_, htells, by rw [hget]; rfl, ?_, h.next rfl ?_⟩
    · rw [hafter, hget]
      exact (List.append_nil _).symm
    · rw [hafter, hget]
      exact h.cache
  · obtain ⟨cache, hsettled, hfetched⟩ := metadata_fetched h.client h.limit (hcache ▸ hstarts)
    rw [hfetched] at htells hreply
    have hevent := event_eq hreply rfl
    rw [houtcome, h.limit] at hdone hnext
    rw [hevent, hreply]
    refine ⟨_, htells, by rw [hdone], ?_, h.next rfl ?_⟩
    · rw [hafter, hcalls]
      rfl
    · rw [hafter, hnext, hsettled, hcache]

theorem other (h : Mirrors s w) (hstep : ∀ forced, ¬ step.Asks forced) :
    (∃ first second, w.replies (s.shadow step) = [first, second]) ∧
      (w.after (s.shadow step)).calls = w.calls ∧
      Mirrors (s.step step).2 (w.after (s.shadow step)) := by
  have hshadow : s.shadow step = [.drop "", .drop ""] := by
    cases hforced : step.forced? with
    | none => rw [shadow, hforced]
    | some forced => exact absurd (Step.asks_iff.mpr hforced) (hstep forced)
  have hdrop : ∀ v : Waiting, (v.step (.drop "")).2.cache = v.cache ∧
      (v.step (.drop "")).2.calls = v.calls := by
    intro v
    simp only [Waiting.step, Waiting.act]
    split <;> exact ⟨rfl, rfl⟩
  have hafter : w.after [.drop "", .drop ""] = ((w.step (.drop "")).2.step (.drop "")).2 := rfl
  let settings : Settings :=
    { url := w.endpoint.url, portNumber := w.endpoint.portNumber, key := w.endpoint.key }
  have hclient : s.client = ⟨Script.transport, server settings⟩ := h.client
  obtain ⟨reply, calls, -, hcache⟩ := plain_step hclient hstep
  have hstepped : s.step step = _ := hcache s.cache
  rw [hshadow, hstepped]
  refine ⟨⟨_, _, rfl⟩, ?_, h.next rfl ?_⟩
  · rw [hafter, (hdrop _).2, (hdrop w).2]
  · rw [hafter, (hdrop _).1, (hdrop w).1]
    exact h.cache

theorem run (h : Mirrors s w) (steps : List Step) :
    Mirrors (s.after steps) (w.after (s.shadows steps)) ∧
      ∃ calls, (w.after (s.shadows steps)).calls = w.calls ++ calls ∧
        Echoes (s.trace steps) (w.replies (s.shadows steps)) calls := by
  induction steps generalizing s w with
  | nil => exact ⟨h, [], (List.append_nil _).symm, .nil⟩
  | cons step steps ih =>
    rw [shadows, Waiting.after_append, Waiting.replies_append]
    by_cases hasks : ∃ forced, step.Asks forced
    · obtain ⟨forced, hstep⟩ := hasks
      obtain ⟨outcome, htells, hreplies, hcalls, hnext⟩ := h.asking hstep
      obtain ⟨hlast, calls, hmore, hrest⟩ := ih hnext
      refine ⟨hlast, (s.event step).calls ++ calls, ?_, ?_⟩
      · rw [hmore, hcalls, List.append_assoc]
      · rw [hreplies]
        exact .asking hstep htells hrest
    · obtain ⟨⟨first, second, hreplies⟩, hcalls, hnext⟩ := h.other (not_exists.mp hasks)
      obtain ⟨hlast, calls, hmore, hrest⟩ := ih hnext
      refine ⟨hlast, calls, by rw [hmore, hcalls], ?_⟩
      rw [hreplies]
      exact .other (not_exists.mp hasks) hrest

end Mirrors

/-- A session from its start: each of its gets is a get of a cache with waiters of which it is the
only caller, and leaves the same cache behind. -/
theorem gets_mirrored (settings : Settings) (answers : List (Except Failure Json))
    (clock : Nat → Int64) (steps : List Step) :
    let start := ofSettings Script.transport settings ⟨answers, []⟩ clock
    let lone := Waiting.initial settings.endpoint settings.metadataLimit fun n => clock (n / 2)
    (start.after steps).cache.toCache = (lone.after (start.shadows steps)).cache ∧
      Echoes (start.trace steps) (lone.replies (start.shadows steps))
        (lone.after (start.shadows steps)).calls := by
  intro start lone
  have hstart : Mirrors start lone :=
    ⟨Waiting.initial_consistent _ _ _, rfl, rfl, rfl, rfl, rfl⟩
  obtain ⟨hlast, calls, hcalls, hechoes⟩ := hstart.run steps
  rw [hcalls]
  exact ⟨hlast.cache, hechoes⟩

end Session

end SensorFrames
