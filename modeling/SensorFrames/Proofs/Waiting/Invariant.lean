import SensorFrames.Service.Waiting

/-!
What every state of a run keeps. The phase of the cache is a function of the number of fetches and
of what the newest of them has come to, each fetch has made the call of its own number, and every
waiter has a fetch. Each step keeps this, keeps every outcome that is there, and takes new outcomes
only from the answer to the call of their fetch.
-/

set_option autoImplicit false

namespace SensorFrames

namespace Waiting

/-! ### Operations -/

section Operations

variable (w : Waiting) (id : String) (g k : Nat) (f : Fetch) (o : Outcome)
  (answer : Except Failure Json)

@[simp] theorem cache_leave : (w.leave id).cache = w.cache := rfl

@[simp] theorem cache_join : (w.join id g).cache = w.cache := rfl

@[simp] theorem cache_respond : (w.respond k answer).cache = w.cache := rfl

@[simp] theorem fst_ticked (r : Reply × Waiting) : (ticked r).1 = r.1 := rfl

@[simp] theorem snd_ticked (r : Reply × Waiting) : (ticked r).2 = r.2.tick := rfl

@[simp] theorem cache_tick : w.tick.cache = w.cache := rfl

@[simp] theorem calls_tick : w.tick.calls = w.calls := rfl

@[simp] theorem answers_tick : w.tick.answers = w.answers := rfl

@[simp] theorem waiters_tick : w.tick.waiters = w.waiters := rfl

@[simp] theorem time_tick : w.tick.time = w.time + 1 := rfl

@[simp] theorem cache_put : (w.put g f).cache = w.cache := by cases g <;> rfl

@[simp] theorem fetch?_leave : (w.leave id).fetch? g = w.fetch? g := by cases g <;> rfl

@[simp] theorem fetch?_join : (w.join id k).fetch? g = w.fetch? g := by cases g <;> rfl

@[simp] theorem fetch?_settle : (w.settle k o).fetch? g = w.fetch? g := by cases g <;> rfl

@[simp] theorem fetch?_respond : (w.respond k answer).fetch? g = w.fetch? g := by cases g <;> rfl

@[simp] theorem fetch?_tick : w.tick.fetch? g = w.fetch? g := by cases g <;> rfl

@[simp] theorem outcome?_leave : (w.leave id).outcome? g = w.outcome? g := by simp [outcome?]

@[simp] theorem outcome?_join : (w.join id k).outcome? g = w.outcome? g := by simp [outcome?]

@[simp] theorem outcome?_respond : (w.respond k answer).outcome? g = w.outcome? g := by
  simp [outcome?]

@[simp] theorem outcome?_tick : w.tick.outcome? g = w.outcome? g := by simp [outcome?]

@[simp] theorem call?_leave : (w.leave id).call? g = w.call? g := by simp [call?]

@[simp] theorem call?_join : (w.join id k).call? g = w.call? g := by simp [call?]

@[simp] theorem call?_respond : (w.respond k answer).call? g = w.call? g := by simp [call?]

@[simp] theorem call?_tick : w.tick.call? g = w.call? g := by simp [call?]

end Operations

theorem fetch?_put {w : Waiting} {n : Nat} (f : Fetch) (g : Nat) (hn : n < w.fetches.length) :
    (w.put (n + 1) f).fetch? g = if g = n + 1 then some f else w.fetch? g := by
  cases g with
  | zero => rfl
  | succ m =>
    by_cases hm : m = n
    · subst m
      simp [put, fetch?, hn]
    · simp [put, fetch?, hm, Ne.symm hm]

theorem fetch?_launch (w : Waiting) (g : Nat) :
    w.launch.fetch? g = if g = w.fetches.length + 1 then some .fresh else w.fetch? g := by
  cases g with
  | zero => rfl
  | succ m =>
    by_cases hm : m = w.fetches.length
    · subst m
      simp [launch, fetch?]
    · simp only [launch, fetch?, List.getElem?_append, Nat.add_right_cancel_iff, hm, if_false]
      split
      · rfl
      · rw [List.getElem?_eq_none (by simp; omega), List.getElem?_eq_none (by omega)]

theorem lookup_leave (w : Waiting) (id other : String) :
    (w.leave id).waiters.lookup other = if other = id then none else w.waiters.lookup other := by
  simp only [leave]
  induction w.waiters with
  | nil => simp
  | cons p ps ih =>
    obtain ⟨name, g⟩ := p
    by_cases hn : name = id
    · subst hn
      by_cases ho : other = name
      · simpa [ho] using ih
      · simpa [ho, List.lookup_cons, beq_false_of_ne ho] using ih
    · by_cases ho : other = name
      · subst ho
        simp [hn]
      · simpa [hn, List.lookup_cons, beq_false_of_ne ho] using ih

theorem lookup_of_leave {w : Waiting} {id other : String} {g : Nat}
    (h : (w.leave id).waiters.lookup other = some g) : w.waiters.lookup other = some g := by
  rw [lookup_leave] at h
  split at h
  · contradiction
  · exact h

theorem lookup_join (w : Waiting) (id other : String) (g : Nat) :
    (w.join id g).waiters.lookup other =
      (w.waiters.lookup other).or (if other = id then some g else none) := by
  by_cases h : other = id
  · simp [join, List.lookup_append, h]
  · simp [join, List.lookup_append, List.lookup_cons, h, beq_false_of_ne h]

theorem mem_of_lookup {α β : Type} [BEq α] [LawfulBEq α] {l : List (α × β)} {a : α} {b : β}
    (h : l.lookup a = some b) : (a, b) ∈ l := by
  obtain ⟨l₁, l₂, heq, -⟩ := List.lookup_eq_some_iff.mp h
  simp [heq]

/-! ### The invariant -/

/-- The phase that goes with a number of fetches and the outcome of the newest of them. -/
def phaseOf : Nat → Option Outcome → Cache.Phase
  | 0, _ => .empty
  | n + 1, none => .pending (n + 1)
  | _ + 1, some outcome => Cache.phaseAfter outcome

/-- The fetch of generation `n + 1` has made call `n`, so that none of them is fresh. -/
structure Consistent (w : Waiting) : Prop where
  fetches : w.fetches.length = w.cache.generation
  calls : w.calls.length = w.cache.generation
  call : ∀ n, n < w.cache.generation → w.call? (n + 1) = some n
  phase : w.cache.phase = phaseOf w.cache.generation (w.outcome? w.cache.generation)
  waiter : ∀ id g, (id, g) ∈ w.waiters → 0 < g ∧ g ≤ w.cache.generation

theorem initial_consistent (e : Endpoint) (limit : UInt64) (clock : Nat → Int64) :
    Consistent (initial e limit clock) where
  fetches := rfl
  calls := rfl
  call n hn := by simp [initial] at hn
  phase := rfl
  waiter id g h := by simp [initial] at h

theorem outcome?_initial (e : Endpoint) (limit : UInt64) (clock : Nat → Int64) (g : Nat) :
    (initial e limit clock).outcome? g = none := by cases g <;> rfl

theorem phaseOf_pending {n g : Nat} {o : Option Outcome} (h : phaseOf n o = .pending g) :
    g = n ∧ 0 < g ∧ o = none := by
  cases n with
  | zero => simp [phaseOf] at h
  | succ n =>
    cases o with
    | none =>
      simp only [phaseOf, Cache.Phase.pending.injEq] at h
      exact ⟨h.symm, by omega, rfl⟩
    | some o => cases o <;> simp [phaseOf, Cache.phaseAfter] at h

theorem phaseOf_resolved {n : Nat} {m : Metadata} {o : Option Outcome}
    (h : phaseOf n o = .resolved m) : o = some (.ok m) := by
  cases n with
  | zero => simp [phaseOf] at h
  | succ n =>
    cases o with
    | none => simp [phaseOf] at h
    | some o => cases o <;> simp_all [phaseOf, Cache.phaseAfter]

theorem phaseOf_empty {n : Nat} {o : Option Outcome} (h : phaseOf n o = .empty) :
    n = 0 ∨ ∃ f, o = some (.error f) := by
  cases n with
  | zero => exact Or.inl rfl
  | succ n =>
    cases o with
    | none => simp [phaseOf] at h
    | some o => cases o <;> simp_all [phaseOf, Cache.phaseAfter]

namespace Consistent

variable {w : Waiting}

theorem outcome?_of_lt (h : Consistent w) {g : Nat} (hg : w.cache.generation < g) :
    w.outcome? g = none := by
  cases g with
  | zero => rfl
  | succ n =>
    have hn : w.fetches.length ≤ n := by rw [h.fetches]; omega
    simp [outcome?, fetch?, List.getElem?_eq_none hn]

theorem fetch_cases (h : Consistent w) {n : Nat} (hn : n < w.cache.generation) :
    w.fetch? (n + 1) = some (.asked n) ∨ ∃ o, w.fetch? (n + 1) = some (.ended n o) := by
  have hc := h.call n hn
  unfold call? at hc
  cases hf : w.fetch? (n + 1) with
  | none => simp [hf] at hc
  | some f =>
    cases f with
    | fresh => simp [hf, Fetch.call?] at hc
    | asked k =>
      simp only [hf, Option.bind_some, Fetch.call?, Option.some.injEq] at hc
      exact Or.inl (by rw [hc])
    | ended k o =>
      simp only [hf, Option.bind_some, Fetch.call?, Option.some.injEq] at hc
      exact Or.inr ⟨o, by rw [hc]⟩

theorem settle_of_ended (h : Consistent w) {g : Nat} {o : Outcome} (hg : w.outcome? g = some o) :
    w.settle g o = w := by
  have hp : w.cache.phase ≠ .pending g := by
    intro hp
    rw [h.phase] at hp
    obtain ⟨heq, -, hnone⟩ := phaseOf_pending hp
    rw [← heq, hg] at hnone
    contradiction
  simp [settle, Cache.settle, hp]

theorem leave (h : Consistent w) (id : String) : Consistent (w.leave id) where
  fetches := h.fetches
  calls := h.calls
  call n hn := by simpa using h.call n hn
  phase := by simpa using h.phase
  waiter other g hg := h.waiter other g (List.mem_filter.mp hg).1

theorem join (h : Consistent w) (id : String) {g : Nat} (h₁ : 0 < g)
    (h₂ : g ≤ w.cache.generation) : Consistent (w.join id g) where
  fetches := h.fetches
  calls := h.calls
  call n hn := by simpa using h.call n hn
  phase := by simpa using h.phase
  waiter other k hk := by
    rcases List.mem_append.mp hk with hold | hnew
    · exact h.waiter other k hold
    · simp only [List.mem_singleton, Prod.mk.injEq] at hnew
      rw [hnew.2]
      exact ⟨h₁, h₂⟩

theorem respond (h : Consistent w) (call : Nat) (answer : Except Failure Json) :
    Consistent (w.respond call answer) where
  fetches := h.fetches
  calls := h.calls
  call n hn := by simpa using h.call n hn
  phase := by simpa using h.phase
  waiter := h.waiter

theorem tick (h : Consistent w) : Consistent w.tick where
  fetches := h.fetches
  calls := h.calls
  call n hn := by simpa using h.call n hn
  phase := by simpa using h.phase
  waiter := h.waiter

end Consistent

/-! ### Starting and ending a fetch -/

def outcomeOf (w : Waiting) (answer : Except Failure Json) : Outcome :=
  Metadata.outcome w.limit w.now answer

def opened (w : Waiting) : Waiting :=
  { w with cache := w.cache.start.2 }.launch.ask (w.cache.generation + 1)

def finish (call : Nat) (answer : Except Failure Json) (w : Waiting) : Waiting :=
  (w.put (call + 1) (.ended call (w.outcomeOf answer))).settle (call + 1) (w.outcomeOf answer)

theorem generation_opened (w : Waiting) :
    w.opened.cache.generation = w.cache.generation + 1 := rfl

theorem phase_opened (w : Waiting) :
    w.opened.cache.phase = .pending (w.cache.generation + 1) := rfl

theorem calls_opened (w : Waiting) :
    w.opened.calls = w.calls ++ [Metadata.request w.endpoint w.limit] := rfl

theorem fetch?_opened {w : Waiting} (h : Consistent w) (g : Nat) :
    w.opened.fetch? g =
      if g = w.cache.generation + 1 then some (.asked w.cache.generation) else w.fetch? g := by
  have hlen : w.cache.generation < (w.fetches ++ [Fetch.fresh]).length := by
    simp [h.fetches]
  simp only [opened, ask]
  rw [fetch?_put _ _ hlen]
  by_cases hg : g = w.cache.generation + 1
  · simp [hg, launch, h.calls]
  · have hl := fetch?_launch w g
    rw [h.fetches, if_neg hg] at hl
    simp only [hg, if_false, ← hl]
    cases g <;> rfl

theorem outcome?_opened {w : Waiting} (h : Consistent w) (g : Nat) :
    w.opened.outcome? g = w.outcome? g := by
  by_cases hg : g = w.cache.generation + 1
  · rw [h.outcome?_of_lt (by omega)]
    simp [outcome?, fetch?_opened h, hg, Fetch.outcome?]
  · simp [outcome?, fetch?_opened h, hg]

theorem Consistent.opened {w : Waiting} (h : Consistent w) : Consistent w.opened where
  fetches := by rw [generation_opened]; simp [Waiting.opened, ask, put, launch, h.fetches]
  calls := by simp [generation_opened, calls_opened, h.calls]
  call n hn := by
    simp only [call?, fetch?_opened h]
    by_cases hg : n = w.cache.generation
    · simp [hg, Fetch.call?]
    · have hlt : n < w.cache.generation := by
        rw [generation_opened] at hn
        omega
      simpa [hg, call?] using h.call n hlt
  phase := by
    have hnone := h.outcome?_of_lt (Nat.lt_succ_self w.cache.generation)
    rw [outcome?_opened h, phase_opened, generation_opened, hnone]
    rfl
  waiter id g hg := by
    have hw := h.waiter id g hg
    rw [generation_opened]
    exact ⟨hw.1, Nat.le_succ_of_le hw.2⟩

theorem fetch?_finish {w : Waiting} (h : Consistent w) {n : Nat} (hn : n < w.cache.generation)
    (answer : Except Failure Json) (g : Nat) :
    (w.finish n answer).fetch? g =
      if g = n + 1 then some (.ended n (w.outcomeOf answer)) else w.fetch? g := by
  have hlen : n < w.fetches.length := by rw [h.fetches]; exact hn
  simp only [finish, fetch?_settle]
  exact fetch?_put _ g hlen

theorem outcome?_finish {w : Waiting} (h : Consistent w) {n : Nat} (hn : n < w.cache.generation)
    (answer : Except Failure Json) (g : Nat) :
    (w.finish n answer).outcome? g =
      if g = n + 1 then some (w.outcomeOf answer) else w.outcome? g := by
  by_cases hg : g = n + 1
  · simp [outcome?, fetch?_finish h hn, hg, Fetch.outcome?]
  · simp [outcome?, fetch?_finish h hn, hg]

theorem cache_finish {w : Waiting} (h : Consistent w) {n : Nat} (answer : Except Failure Json)
    (hnone : w.outcome? (n + 1) = none) :
    (w.finish n answer).cache =
      if n + 1 = w.cache.generation then
        { w.cache with phase := Cache.phaseAfter (w.outcomeOf answer) }
      else w.cache := by
  have hp := h.phase
  by_cases hg : n + 1 = w.cache.generation
  · rw [← hg, hnone] at hp
    simp [finish, settle, Cache.settle, hg, hp, phaseOf]
  · have hne : w.cache.phase ≠ .pending (n + 1) := by
      intro hpend
      rw [h.phase] at hpend
      exact hg (phaseOf_pending hpend).1
    simp [finish, settle, Cache.settle, hg, hne]

theorem generation_finish {w : Waiting} (h : Consistent w) {n : Nat} (answer : Except Failure Json)
    (hnone : w.outcome? (n + 1) = none) :
    (w.finish n answer).cache.generation = w.cache.generation := by
  rw [cache_finish h answer hnone]
  split <;> rfl

theorem Consistent.finish {w : Waiting} (h : Consistent w) {n : Nat}
    (hn : n < w.cache.generation) (answer : Except Failure Json)
    (hnone : w.outcome? (n + 1) = none) : Consistent (w.finish n answer) := by
  have hgen := generation_finish h answer hnone
  constructor
  case fetches => rw [hgen, ← h.fetches]; simp [Waiting.finish, settle, put]
  case calls => rw [hgen]; exact h.calls
  case call =>
    intro k hk
    rw [hgen] at hk
    simp only [call?, fetch?_finish h hn]
    by_cases hkn : k = n
    · simp [hkn, Fetch.call?]
    · simpa [hkn, call?] using h.call k hk
  case phase =>
    rw [hgen, outcome?_finish h hn, cache_finish h answer hnone]
    by_cases hg : n + 1 = w.cache.generation
    · simp [← hg, phaseOf]
    · simpa [hg, Ne.symm hg] using h.phase
  case waiter => rw [hgen]; exact h.waiter

end Waiting

end SensorFrames
