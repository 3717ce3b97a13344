import SensorFrames.Proofs.Waiting.Step

/-!
Whole runs. In every state that is reached the newest fetch alone decides what the cache holds, and
no more than one call was made for each fetch, in the step that started it.
-/

set_option autoImplicit false

namespace SensorFrames

namespace Waiting

/-! ### Runs -/

def after (w : Waiting) (steps : List Step) : Waiting := (w.run steps).2

def replies (w : Waiting) (steps : List Step) : List Reply := (w.run steps).1

theorem after_cons (w : Waiting) (s : Step) (steps : List Step) :
    w.after (s :: steps) = (w.step s).2.after steps := rfl

theorem after_append (w : Waiting) (steps more : List Step) :
    w.after (steps ++ more) = (w.after steps).after more := by
  induction steps generalizing w with
  | nil => rfl
  | cons s steps ih => exact ih (w.step s).2

theorem after_take_succ {w : Waiting} {steps : List Step} {k : Nat} {s : Step}
    (hs : steps[k]? = some s) :
    w.after (steps.take (k + 1)) = ((w.after (steps.take k)).step s).2 := by
  rw [List.take_add_one, hs, after_append]
  rfl

theorem replies_getElem? (w : Waiting) (steps : List Step) (k : Nat) :
    (w.replies steps)[k]? = steps[k]?.map fun s => ((w.after (steps.take k)).step s).1 := by
  induction steps generalizing w k with
  | nil => rfl
  | cons s steps ih =>
    cases k with
    | zero => rfl
    | succ k => exact ih (w.step s).2 k

theorem replies_length (w : Waiting) (steps : List Step) :
    (w.replies steps).length = steps.length := by
  induction steps generalizing w with
  | nil => rfl
  | cons s steps ih => exact congrArg Nat.succ (ih (w.step s).2)

theorem replies_append (w : Waiting) (steps more : List Step) :
    w.replies (steps ++ more) = w.replies steps ++ (w.after steps).replies more := by
  induction steps generalizing w with
  | nil => rfl
  | cons s steps ih => exact congrArg _ (ih (w.step s).2)

theorem after_time {w : Waiting} (h : Consistent w) (steps : List Step) :
    (w.after steps).time = w.time + steps.length := by
  induction steps generalizing w with
  | nil => rfl
  | cons s steps ih =>
    have t := step_transition h s
    rw [after_cons, ih (t.consistent h), t.time h, List.length_cons]
    omega

theorem after_consistent {w : Waiting} (h : Consistent w) (steps : List Step) :
    Consistent (w.after steps) := by
  induction steps generalizing w with
  | nil => exact h
  | cons s steps ih => exact ih ((step_transition h s).consistent h)

theorem later_after {w : Waiting} (h : Consistent w) (steps : List Step) :
    Later w (w.after steps) := by
  induction steps generalizing w with
  | nil => exact Later.refl w
  | cons s steps ih =>
    have t := step_transition h s
    exact (t.later h).trans (ih (t.consistent h))

theorem later_take {w : Waiting} (h : Consistent w) (steps : List Step) {i j : Nat} (hij : i ≤ j) :
    Later (w.after (steps.take i)) (w.after (steps.take j)) := by
  have hi : steps.take i = (steps.take j).take i := by rw [List.take_take, Nat.min_eq_left hij]
  have hl := later_after (after_consistent h ((steps.take j).take i)) ((steps.take j).drop i)
  rw [← after_append, List.take_append_drop] at hl
  rwa [hi]

/-! ### The newest fetch -/

/-- What the cache and its waiters may be, given how the fetches stand. -/
structure NewestDecides (w : Waiting) : Prop where
  count : w.fetches.length = w.cache.generation
  pending : ∀ g, w.cache.phase = .pending g → g = w.cache.generation
  waiter : ∀ id g, (id, g) ∈ w.waiters → 1 ≤ g ∧ g ≤ w.cache.generation
  resolved : ∀ m, w.cache.phase = .resolved m → w.outcome? w.cache.generation = some (.ok m)
  empty : w.cache.phase = .empty →
    w.fetches = [] ∨ ∃ f, w.outcome? w.cache.generation = some (.error f)

theorem Consistent.newestDecides {w : Waiting} (h : Consistent w) : NewestDecides w where
  count := h.fetches
  pending g hp := (phaseOf_pending (h.phase.symm.trans hp)).1
  waiter id g hg := h.waiter id g hg
  resolved m hp := phaseOf_resolved (h.phase.symm.trans hp)
  empty hp := by
    rcases phaseOf_empty (h.phase.symm.trans hp) with hzero | hf
    · exact Or.inl (List.eq_nil_of_length_eq_zero (h.fetches.trans hzero))
    · exact Or.inr hf

/-- A waiter for a fetch that is not the newest leaves the cache alone. -/
theorem poll_cache {w : Waiting} (h : Consistent w) (id : String)
    (hid : w.waiters.lookup id ≠ some w.cache.generation) :
    (w.step (.poll id)).2.cache = w.cache := by
  have t := step_transition h (.poll id)
  generalize w.step (.poll id) = r at t
  cases t with
  | polled _ hn hl =>
    refine advance_cache h hn id ?_
    intro hg
    rw [hl, hg] at hid
    exact hid rfl
  | pollMissed _ _ => rfl

/-- Once the newest fetch has ended, the cache stays as it is until a newer one is started. -/
theorem after_cache {w : Waiting} (h : Consistent w) (more : List Step)
    (hp : ∀ g, w.cache.phase ≠ .pending g)
    (hg : (w.after more).cache.generation = w.cache.generation) :
    (w.after more).cache = w.cache := by
  have hphase := (after_consistent h more).phase
  rw [hg] at hphase
  have hkeep : (w.after more).cache.phase = w.cache.phase := by
    rw [hphase, h.phase]
    cases hn : w.cache.generation with
    | zero => rfl
    | succ n =>
      cases ho : w.outcome? (n + 1) with
      | none => exact absurd (by rw [h.phase, hn, ho]; rfl) (hp (n + 1))
      | some o => rw [(later_after h more).outcome _ o ho]
  calc (w.after more).cache
      = ⟨(w.after more).cache.phase, (w.after more).cache.generation⟩ := rfl
    _ = ⟨w.cache.phase, w.cache.generation⟩ := by rw [hkeep, hg]
    _ = w.cache := rfl

/-- Below 2^64 fetches their numbers are words: the word of a fetch is that of the pending one only
if it is the pending one. -/
theorem pending_word {w : Waiting} (h : Consistent w) (hfew : w.fetches.length < UInt64.size) {g : Nat}
    (hg : g ≤ w.cache.generation) :
    (∃ p, w.cache.phase = .pending p ∧ p.toUInt64 = g.toUInt64) ↔ w.cache.phase = .pending g := by
  rw [h.fetches] at hfew
  constructor
  · rintro ⟨p, hp, hword⟩
    have hnewest := (phaseOf_pending (h.phase.symm.trans hp)).1
    have hnumber := congrArg UInt64.toNat hword
    rw [UInt64.toNat_ofNat_of_lt' (by omega), UInt64.toNat_ofNat_of_lt' (by omega)] at hnumber
    rw [hp, hnumber]
  · exact fun hp => ⟨g, hp, rfl⟩

/-- No interleaving lets an older fetch, ending late, replace or clear what a newer one left in the
cache: it is the newest that decides, whichever waiters are polled or dropped, and in which order. -/
theorem newest_fetch_decides (e : Endpoint) (limit : UInt64) (clock : Nat → Int64)
    (steps : List Step) :
    let w := (initial e limit clock).after steps
    NewestDecides w ∧
      (∀ id, w.waiters.lookup id ≠ some w.cache.generation →
        (w.step (.poll id)).2.cache = w.cache) ∧
      (∀ more, (∀ g, w.cache.phase ≠ .pending g) →
        (w.after more).cache.generation = w.cache.generation →
          (w.after more).cache = w.cache) ∧
      (w.fetches.length < UInt64.size → ∀ g, g ≤ w.cache.generation →
        ((∃ p, w.cache.phase = .pending p ∧ p.toUInt64 = g.toUInt64) ↔
          w.cache.phase = .pending g)) := by
  intro w
  have h : Consistent w := after_consistent (initial_consistent e limit clock) steps
  exact ⟨h.newestDecides, poll_cache h, after_cache h, fun hfew _ => pending_word h hfew⟩

def seconds (n : Nat) : Int64 := .ofNat (1000 * n)

def labServer : Endpoint := ⟨"https://prtg.local", 1616, "key"⟩

def labBody : Json := .arr [.obj [("device", .str "web"), ("group", .str "Lab")], .null]

theorem overtaken_fetch_ends_late :
    let w := (initial labServer 10 seconds).after
      [.get "a" false, .get "b" true, .respond 1 (.ok labBody), .poll "b", .respond 0 (.ok .null)]
    w.cache = ⟨.resolved ⟨["Lab"], ["web"], [], [], 3000⟩, 2⟩ ∧ w.waiters.lookup "a" = some 1 ∧
      (w.step (.poll "a")).1 = .done (.error (.unexpectedBody "expected array, got null")) ∧
      (w.step (.poll "a")).2.cache = w.cache ∧
      ((∃ p, w.cache.phase = .pending p ∧ p.toUInt64 = 2) ↔ w.cache.phase = .pending 2) := by
  intro w
  obtain ⟨-, hpoll, -, hword⟩ := newest_fetch_decides labServer 10 seconds
    [.get "a" false, .get "b" true, .respond 1 (.ok labBody), .poll "b", .respond 0 (.ok .null)]
  exact ⟨rfl, rfl, rfl, hpoll "a" (by decide), hword (by decide) 2 (Nat.le_refl _)⟩

/-! ### The calls -/

def Step.isForcedGet : Step → Bool
  | .get _ forced => forced
  | _ => false

def findsEmpty (w : Waiting) : Step → Bool
  | .get _ forced => !forced && decide (w.cache.phase = .empty)
  | _ => false

def emptyGets : Waiting → List Step → Nat
  | _, [] => 0
  | w, s :: steps => (if w.findsEmpty s then 1 else 0) + emptyGets (w.step s).2 steps

theorem opens_count (w : Waiting) (s : Step) :
    (if w.opens s then 1 else 0) =
      (if s.isForcedGet then 1 else 0) + if w.findsEmpty s then 1 else 0 := by
  cases s with
  | get id forced => cases forced <;> simp [opens, starts, Step.isForcedGet, findsEmpty]
  | _ => rfl

theorem generation_after {w : Waiting} (h : Consistent w) (steps : List Step) :
    (w.after steps).cache.generation =
      w.cache.generation + (steps.countP Step.isForcedGet + emptyGets w steps) := by
  induction steps generalizing w with
  | nil => rfl
  | cons s steps ih =>
    have t := step_transition h s
    have hs := opens_count w s
    rw [after_cons, ih (t.consistent h), t.generation h, List.countP_cons, emptyGets]
    omega

/-- One call for each fetch, made in the step that starts it: a forced get, or one that finds the
cache empty. No other step makes a call, whoever was dropped and whatever fetch it ends. -/
theorem single_flight (e : Endpoint) (limit : UInt64) (clock : Nat → Int64) (steps : List Step) :
    let w := (initial e limit clock).after steps
    w.calls.length = w.cache.generation ∧
      w.cache.generation =
        steps.countP Step.isForcedGet + emptyGets (initial e limit clock) steps ∧
      ∀ s, (w.step s).2.calls =
          w.calls ++ (if w.opens s then [Metadata.request e limit] else []) ∧
        (w.step s).2.cache.generation = w.cache.generation + (if w.opens s then 1 else 0) ∧
        ∀ n, n < (w.step s).2.cache.generation → (w.step s).2.call? (n + 1) = some n := by
  intro w
  have h₀ := initial_consistent e limit clock
  have h : Consistent w := after_consistent h₀ steps
  have hl : Later (initial e limit clock) w := later_after h₀ steps
  refine ⟨h.calls, ?_, fun s => ?_⟩
  · have hg := generation_after h₀ steps
    rwa [show (initial e limit clock).cache.generation = 0 from rfl, Nat.zero_add] at hg
  · have t := step_transition h s
    refine ⟨?_, t.generation h, (t.consistent h).call⟩
    rw [t.calls h, hl.endpoint, hl.limit]
    rfl

theorem deserted_fetch_asked_once :
    let w := (initial labServer 10 seconds).after
      [.get "a" false, .drop "a", .get "b" false, .drop "b", .get "c" true]
    w.calls.length = 2 ∧ (w.step (.get "d" false)).2.calls = w.calls ∧
      (w.step (.get "d" false)).2.call? 1 = some 0 := by
  intro w
  obtain ⟨hcount, -, hstep⟩ := single_flight labServer 10 seconds
    [.get "a" false, .drop "a", .get "b" false, .drop "b", .get "c" true]
  obtain ⟨hcalls, -, hcall⟩ := hstep (.get "d" false)
  exact ⟨hcount, hcalls.trans (List.append_nil _), hcall 0 (by decide)⟩

end Waiting

end SensorFrames
