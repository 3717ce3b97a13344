import SensorFrames.Proofs.Waiting.Invariant

/-!
What one step does. A poll finds its fetch open, or ended before, or ends it; a get that is not
served from the cache joins the newest fetch, after starting one where it has to, and polls it. The
invariant and the outcomes that are there survive every step.
-/

set_option autoImplicit false

namespace SensorFrames

namespace Waiting

variable {w : Waiting}

/-! ### Polls -/

theorem advance_fresh {g : Nat} (id : String) (hf : w.fetch? g = some .fresh) :
    w.advance id g = (w.ask g).advance id g := by
  cases g with
  | zero => simp [fetch?] at hf
  | succ n =>
    have hlen : n < w.fetches.length := (List.getElem?_eq_some_iff.mp hf).1
    have hasked : (w.ask (n + 1)).fetch? (n + 1) = some (.asked w.calls.length) := by
      simp [ask, put, fetch?, hlen]
    simp [advance, pollFetch, hf, hasked]

theorem advance_cases (h : Consistent w) {n : Nat} (hn : n < w.cache.generation) (id : String) :
    (w.outcome? (n + 1) = none ∧ w.answers.lookup n = none ∧
      w.advance id (n + 1) = (.pending, w)) ∨
    (∃ o, w.outcome? (n + 1) = some o ∧ w.advance id (n + 1) = (.done o, w.leave id)) ∨
    ∃ answer, w.outcome? (n + 1) = none ∧ w.answers.lookup n = some answer ∧
      w.advance id (n + 1) =
        (.done (w.outcomeOf answer), (w.finish n answer).leave id) := by
  rcases h.fetch_cases hn with hf | ⟨o, hf⟩
  · have hnone : w.outcome? (n + 1) = none := by simp [outcome?, hf, Fetch.outcome?]
    cases ha : w.answers.lookup n with
    | none => exact Or.inl ⟨hnone, rfl, by simp [advance, pollFetch, hf, look, ha]⟩
    | some answer =>
      refine Or.inr (Or.inr ⟨answer, hnone, rfl, ?_⟩)
      simp [advance, pollFetch, hf, look, ha, finish, outcomeOf]
  · have ho : w.outcome? (n + 1) = some o := by simp [outcome?, hf, Fetch.outcome?]
    refine Or.inr (Or.inl ⟨o, ho, ?_⟩)
    simp [advance, pollFetch, hf, h.settle_of_ended ho]

/-- What holds of the state after a step as it did before. -/
structure Later (w v : Waiting) : Prop where
  endpoint : v.endpoint = w.endpoint
  limit : v.limit = w.limit
  clock : v.clock = w.clock
  generation : w.cache.generation ≤ v.cache.generation
  outcome : ∀ g o, w.outcome? g = some o → v.outcome? g = some o

theorem Later.refl (w : Waiting) : Later w w := ⟨rfl, rfl, rfl, Nat.le_refl _, fun _ _ h => h⟩

theorem Later.trans {u v : Waiting} (h : Later w u) (h' : Later u v) : Later w v where
  endpoint := h'.endpoint.trans h.endpoint
  limit := h'.limit.trans h.limit
  clock := h'.clock.trans h.clock
  generation := Nat.le_trans h.generation h'.generation
  outcome g o ho := h'.outcome g o (h.outcome g o ho)

theorem later_tick (w : Waiting) : Later w w.tick :=
  ⟨rfl, rfl, rfl, Nat.le_refl _, fun g o h => by simpa using h⟩

theorem later_leave (w : Waiting) (id : String) : Later w (w.leave id) :=
  ⟨rfl, rfl, rfl, Nat.le_refl _, fun g o h => by simpa using h⟩

theorem later_respond (w : Waiting) (call : Nat) (answer : Except Failure Json) :
    Later w (w.respond call answer) :=
  ⟨rfl, rfl, rfl, Nat.le_refl _, fun g o h => by simpa using h⟩

theorem later_finish (h : Consistent w) {n : Nat} (hn : n < w.cache.generation)
    (answer : Except Failure Json) (hnone : w.outcome? (n + 1) = none) :
    Later w (w.finish n answer) where
  endpoint := rfl
  limit := rfl
  clock := rfl
  generation := Nat.le_of_eq (generation_finish h answer hnone).symm
  outcome g o ho := by
    have hg : g ≠ n + 1 := by
      intro hg
      rw [hg, hnone] at ho
      contradiction
    rwa [outcome?_finish h hn, if_neg hg]

section Advance

variable {n : Nat} (h : Consistent w) (hn : n < w.cache.generation) (id : String)

include h hn

theorem advance_consistent : Consistent (w.advance id (n + 1)).2 := by
  rcases advance_cases h hn id with ⟨-, -, heq⟩ | ⟨o, -, heq⟩ | ⟨answer, hnone, -, heq⟩
  · rw [heq]; exact h
  · rw [heq]; exact h.leave id
  · rw [heq]; exact (h.finish hn answer hnone).leave id

theorem advance_later : Later w (w.advance id (n + 1)).2 := by
  rcases advance_cases h hn id with ⟨-, -, heq⟩ | ⟨o, -, heq⟩ | ⟨answer, hnone, -, heq⟩
  · rw [heq]; exact Later.refl w
  · rw [heq]; exact later_leave w id
  · rw [heq]; exact (later_finish h hn answer hnone).trans (later_leave _ id)

theorem advance_generation : (w.advance id (n + 1)).2.cache.generation = w.cache.generation := by
  rcases advance_cases h hn id with ⟨-, -, heq⟩ | ⟨o, -, heq⟩ | ⟨answer, hnone, -, heq⟩
  · rw [heq]
  · rw [heq]; rfl
  · rw [heq]; exact generation_finish h answer hnone

theorem advance_calls : (w.advance id (n + 1)).2.calls = w.calls := by
  rcases advance_cases h hn id with ⟨-, -, heq⟩ | ⟨o, -, heq⟩ | ⟨answer, -, -, heq⟩ <;>
    rw [heq] <;> rfl

theorem advance_answers : (w.advance id (n + 1)).2.answers = w.answers := by
  rcases advance_cases h hn id with ⟨-, -, heq⟩ | ⟨o, -, heq⟩ | ⟨answer, -, -, heq⟩ <;>
    rw [heq] <;> rfl

theorem advance_time : (w.advance id (n + 1)).2.time = w.time := by
  rcases advance_cases h hn id with ⟨-, -, heq⟩ | ⟨o, -, heq⟩ | ⟨answer, -, -, heq⟩ <;>
    rw [heq] <;> rfl

theorem advance_done {o : Outcome} (hr : (w.advance id (n + 1)).1 = .done o) :
    (w.advance id (n + 1)).2.outcome? (n + 1) = some o := by
  rcases advance_cases h hn id with ⟨-, -, heq⟩ | ⟨o', ho, heq⟩ | ⟨answer, -, -, heq⟩
  · simp [heq] at hr
  · rw [heq] at hr ⊢
    cases hr
    simpa using ho
  · rw [heq] at hr ⊢
    cases hr
    simp [outcome?_finish h hn]

theorem advance_outcome {g : Nat} {o : Outcome} (hnone : w.outcome? g = none)
    (ho : (w.advance id (n + 1)).2.outcome? g = some o) :
    g = n + 1 ∧ ∃ answer, w.answers.lookup n = some answer ∧
      o = w.outcomeOf answer := by
  rcases advance_cases h hn id with ⟨-, -, heq⟩ | ⟨o', -, heq⟩ | ⟨answer, -, ha, heq⟩
  · simp [heq, hnone] at ho
  · simp [heq, hnone] at ho
  · rw [heq, outcome?_leave, outcome?_finish h hn] at ho
    by_cases hg : g = n + 1
    · rw [if_pos hg, Option.some.injEq] at ho
      exact ⟨hg, answer, ha, ho.symm⟩
    · rw [if_neg hg, hnone] at ho
      contradiction

theorem advance_waiter {other : String} {g : Nat}
    (hw : (w.advance id (n + 1)).2.waiters.lookup other = some g) :
    w.waiters.lookup other = some g := by
  rcases advance_cases h hn id with ⟨-, -, heq⟩ | ⟨o, -, heq⟩ | ⟨answer, -, -, heq⟩
  · rwa [heq] at hw
  · rw [heq] at hw; exact lookup_of_leave hw
  · rw [heq] at hw; exact lookup_of_leave hw

theorem advance_cache (hg : n + 1 ≠ w.cache.generation) :
    (w.advance id (n + 1)).2.cache = w.cache := by
  rcases advance_cases h hn id with ⟨-, -, heq⟩ | ⟨o, -, heq⟩ | ⟨answer, hnone, -, heq⟩
  · rw [heq]
  · rw [heq]; rfl
  · rw [heq, cache_leave, cache_finish h answer hnone, if_neg hg]

end Advance

/-! ### Gets -/

def starts (forced : Bool) (w : Waiting) : Bool := forced || decide (w.cache.phase = .empty)

theorem enter_of_starts {forced : Bool} (h : w.starts forced = true) :
    w.cache.enter forced = w.cache.start :=
  Cache.enter_eq_start (by simpa [starts] using h)

/-- The state once a get has its fetch, with the call of a fetch that it started. -/
def begun (forced : Bool) (w : Waiting) : Waiting := if w.starts forced then w.opened else w

/-- The state in which a get polls the newest fetch, in the place of a waiter with its name. -/
def seated (id : String) (forced : Bool) (w : Waiting) : Waiting :=
  ((w.begun forced).leave id).join id (w.begun forced).cache.generation

theorem begun_consistent (h : Consistent w) (forced : Bool) : Consistent (w.begun forced) := by
  unfold begun
  split
  · exact h.opened
  · exact h

theorem begun_outcome? (h : Consistent w) (forced : Bool) (g : Nat) :
    (w.begun forced).outcome? g = w.outcome? g := by
  unfold begun
  split
  · exact outcome?_opened h g
  · rfl

theorem seated_generation (id : String) (forced : Bool) (w : Waiting) :
    (w.seated id forced).cache.generation =
      w.cache.generation + if w.starts forced then 1 else 0 := by
  simp only [seated, cache_join, cache_leave, begun]
  split <;> simp [generation_opened]

theorem seated_calls (id : String) (forced : Bool) (w : Waiting) :
    (w.seated id forced).calls =
      w.calls ++ if w.starts forced then [Metadata.request w.endpoint w.limit] else [] := by
  simp only [seated, join, leave, begun]
  split <;> simp [calls_opened]

theorem seated_outcome? (h : Consistent w) (id : String) (forced : Bool) (g : Nat) :
    (w.seated id forced).outcome? g = w.outcome? g := by
  simp [seated, begun_outcome? h]

theorem seated_answers (id : String) (forced : Bool) (w : Waiting) :
    (w.seated id forced).answers = w.answers := by
  simp only [seated, join, leave, begun]
  split <;> rfl

theorem seated_waiter (id other : String) (forced : Bool) (w : Waiting) :
    (w.seated id forced).waiters.lookup other =
      if other = id then some (w.seated id forced).cache.generation
      else w.waiters.lookup other := by
  have hw : (w.begun forced).waiters = w.waiters := by
    unfold begun
    split <;> rfl
  rw [seated, lookup_join, lookup_leave, hw]
  by_cases ho : other = id <;> simp [ho]

theorem seated_time (id : String) (forced : Bool) (w : Waiting) :
    (w.seated id forced).time = w.time := by
  simp only [seated, join, leave, begun]
  split <;> rfl

theorem later_seated (h : Consistent w) (id : String) (forced : Bool) :
    Later w (w.seated id forced) where
  endpoint := by simp only [seated, join, leave, begun]; split <;> rfl
  limit := by simp only [seated, join, leave, begun]; split <;> rfl
  clock := by simp only [seated, join, leave, begun]; split <;> rfl
  generation := by rw [seated_generation]; omega
  outcome g o ho := by rwa [seated_outcome? h]

theorem seated_outcomeOf (h : Consistent w) (id : String) (forced : Bool)
    (answer : Except Failure Json) : (w.seated id forced).outcomeOf answer = w.outcomeOf answer := by
  have hl := later_seated h id forced
  rw [outcomeOf, outcomeOf, now, now, hl.limit, hl.clock, seated_time]

theorem get_cases (h : Consistent w) (id : String) (forced : Bool) :
    (∃ m, forced = false ∧ w.cache.phase = .resolved m ∧
      w.get id forced = (.done (.ok m), w.leave id)) ∨
    ∃ n, (w.seated id forced).cache.generation = n + 1 ∧ Consistent (w.seated id forced) ∧
      w.get id forced = (w.seated id forced).advance id (n + 1) := by
  have hcons : ∀ n, (w.seated id forced).cache.generation = n + 1 →
      Consistent (w.seated id forced) := fun n hn =>
    ((begun_consistent h forced).leave id).join id (hn ▸ Nat.succ_pos n) (Nat.le_refl _)
  by_cases hs : w.starts forced = true
  · have hgen : (w.seated id forced).cache.generation = w.cache.generation + 1 := by
      simp [seated_generation, hs]
    refine Or.inr ⟨_, hgen, hcons _ hgen, ?_⟩
    -- the new fetch is fresh, so that the first poll of the get makes its call
    have hfresh : ({ w.leave id with cache := w.cache.start.2 }.launch.join id
        (w.cache.generation + 1)).fetch? (w.cache.generation + 1) = some .fresh := by
      rw [fetch?_join, fetch?_launch]
      simp [Waiting.leave, h.fetches]
    simp only [get, cache_leave, enter_of_starts hs, seated, begun, if_pos hs]
    exact advance_fresh id hfresh
  · have hb : w.begun forced = w := by rw [begun, if_neg hs]
    simp only [starts, Bool.or_eq_true, decide_eq_true_eq, not_or, Bool.not_eq_true] at hs
    obtain ⟨hf, hempty⟩ := hs
    subst hf
    cases hphase : w.cache.phase with
    | empty => exact absurd hphase hempty
    | resolved m => exact Or.inl ⟨m, rfl, rfl, by simp [get, Cache.enter, hphase]⟩
    | pending g =>
      have hg := h.phase
      rw [hphase] at hg
      obtain ⟨heq, hpos, -⟩ := phaseOf_pending hg.symm
      have hgen : (w.seated id false).cache.generation = g - 1 + 1 := by
        simp only [seated, hb, cache_join, cache_leave]
        omega
      refine Or.inr ⟨g - 1, hgen, hcons _ hgen, ?_⟩
      rw [← hgen]
      simp only [get, cache_leave, Cache.enter, hphase, seated, hb, heq]
      rfl

/-- A get that the cache does not serve ends the newest fetch, when that is open and the answer to
its call is there. -/
theorem get_settles (h : Consistent w) (id : String) {forced : Bool} {n : Nat}
    {answer : Except Failure Json} (hn : (w.seated id forced).cache.generation = n + 1)
    (hheld : forced = false → ∀ m, w.cache.phase ≠ .resolved m)
    (hopen : w.outcome? (n + 1) = none) (ha : w.answers.lookup n = some answer) :
    (w.step (.get id forced)).1 = .done (w.outcomeOf answer) ∧
      (w.step (.get id forced)).2.cache = ⟨Cache.phaseAfter (w.outcomeOf answer), n + 1⟩ ∧
      (w.step (.get id forced)).2.calls = (w.seated id forced).calls := by
  rcases get_cases h id forced with ⟨m, hforced, hm, -⟩ | ⟨k, hk, hc, heq⟩
  · exact absurd hm (hheld hforced m)
  · obtain rfl : k = n := by omega
    have hlt : k < (w.seated id forced).cache.generation := by omega
    rcases advance_cases hc hlt id with ⟨-, hl, -⟩ | ⟨o, ho, -⟩ | ⟨answer', ho, hl, hadv⟩
    · rw [seated_answers, ha] at hl
      contradiction
    · rw [seated_outcome? h, hopen] at ho
      contradiction
    · rw [seated_answers, ha] at hl
      obtain rfl := Option.some.inj hl
      rw [step, act, heq, hadv, seated_outcomeOf h]
      refine ⟨rfl, ?_, rfl⟩
      rw [snd_ticked, cache_tick, cache_leave, cache_finish hc answer ho, if_pos hk.symm,
        seated_outcomeOf h]
      exact congrArg (Cache.mk _) hk

/-! ### Steps -/

/-- All that a step can do. -/
inductive Transition (w : Waiting) : Step → Reply × Waiting → Prop where
  | held (id : String) {m : Metadata} : w.cache.phase = .resolved m →
      Transition w (.get id false) (ticked (.done (.ok m), w.leave id))
  | entered (id : String) (forced : Bool) {n : Nat} :
      (w.seated id forced).cache.generation = n + 1 → Consistent (w.seated id forced) →
      Transition w (.get id forced) (ticked ((w.seated id forced).advance id (n + 1)))
  | polled (id : String) {n : Nat} : n < w.cache.generation →
      w.waiters.lookup id = some (n + 1) →
      Transition w (.poll id) (ticked (w.advance id (n + 1)))
  | pollMissed (id : String) : w.waiters.lookup id = none →
      Transition w (.poll id) (ticked (.noWaiter, w))
  | answered (call : Nat) (answer : Except Failure Json) :
      Transition w (.respond call answer) (ticked (.answerSet, w.respond call answer))
  | dropped (id : String) : Transition w (.drop id) (ticked (.dropped, w.leave id))
  | dropMissed (id : String) : w.waiters.lookup id = none →
      Transition w (.drop id) (ticked (.noWaiter, w))

theorem step_transition (h : Consistent w) (s : Step) : Transition w s (w.step s) := by
  cases s with
  | get id forced =>
    rcases get_cases h id forced with ⟨m, hf, hp, heq⟩ | ⟨n, hn, hc, heq⟩
    · subst hf
      rw [step, act, heq]
      exact .held id hp
    · rw [step, act, heq]
      exact .entered id forced hn hc
  | poll id =>
    cases hl : w.waiters.lookup id with
    | none =>
      have heq : w.act (.poll id) = (.noWaiter, w) := by simp [act, poll, hl]
      rw [step, heq]
      exact .pollMissed id hl
    | some g =>
      obtain ⟨hpos, hle⟩ := h.waiter id g (mem_of_lookup hl)
      have hg : g - 1 + 1 = g := Nat.sub_add_cancel hpos
      have heq : w.act (.poll id) = w.advance id (g - 1 + 1) := by simp [act, poll, hl, hg]
      rw [step, heq]
      exact .polled id (by omega) (by rw [hg, hl])
  | respond call answer => exact .answered call answer
  | drop id =>
    cases hl : w.waiters.lookup id with
    | none =>
      have heq : w.act (.drop id) = (.noWaiter, w) := by simp [act, hl]
      rw [step, heq]
      exact .dropMissed id hl
    | some g =>
      have heq : w.act (.drop id) = (.dropped, w.leave id) := by simp [act, hl]
      rw [step, heq]
      exact .dropped id

def opens (w : Waiting) : Step → Bool
  | .get _ forced => w.starts forced
  | _ => false

namespace Transition

variable {s : Step} {r : Reply × Waiting}

theorem consistent (t : Transition w s r) (h : Consistent w) : Consistent r.2 := by
  cases t with
  | held id _ => exact (h.leave id).tick
  | entered id forced hn hc => exact (advance_consistent hc (by omega) id).tick
  | polled id hn _ => exact (advance_consistent h hn id).tick
  | pollMissed id _ => exact h.tick
  | answered call answer => exact (h.respond call answer).tick
  | dropped id => exact (h.leave id).tick
  | dropMissed id _ => exact h.tick

theorem later (t : Transition w s r) (h : Consistent w) : Later w r.2 := by
  cases t with
  | held id _ => exact (later_leave w id).trans (later_tick _)
  | entered id forced hn hc =>
    exact (later_seated h id forced).trans
      ((advance_later hc (by omega) id).trans (later_tick _))
  | polled id hn _ => exact (advance_later h hn id).trans (later_tick _)
  | pollMissed id _ => exact later_tick w
  | answered call answer => exact (later_respond w call answer).trans (later_tick _)
  | dropped id => exact (later_leave w id).trans (later_tick _)
  | dropMissed id _ => exact later_tick w

theorem time (t : Transition w s r) (h : Consistent w) : r.2.time = w.time + 1 := by
  cases t with
  | held id _ => rfl
  | entered id forced hn hc =>
    rw [snd_ticked, time_tick, advance_time hc (by omega), seated_time]
  | polled id hn _ => rw [snd_ticked, time_tick, advance_time h hn]
  | pollMissed id _ => rfl
  | answered call answer => rfl
  | dropped id => rfl
  | dropMissed id _ => rfl

theorem generation (t : Transition w s r) (h : Consistent w) :
    r.2.cache.generation = w.cache.generation + if w.opens s then 1 else 0 := by
  cases t with
  | held id hp => simp [opens, starts, hp]
  | entered id forced hn hc =>
    rw [snd_ticked, cache_tick, advance_generation hc (by omega), seated_generation, opens]
  | polled id hn _ => simpa [opens] using advance_generation h hn id
  | pollMissed id _ => simp [opens]
  | answered call answer => simp [opens]
  | dropped id => simp [opens]
  | dropMissed id _ => simp [opens]

theorem calls (t : Transition w s r) (h : Consistent w) :
    r.2.calls =
      w.calls ++ if w.opens s then [Metadata.request w.endpoint w.limit] else [] := by
  cases t with
  | held id hp => simp [opens, starts, hp, Waiting.leave]
  | entered id forced hn hc =>
    rw [snd_ticked, calls_tick, advance_calls hc (by omega), seated_calls, opens]
  | polled id hn _ => simpa [opens] using advance_calls h hn id
  | pollMissed id _ => simp [opens]
  | answered call answer => simp [opens, Waiting.respond]
  | dropped id => simp [opens, Waiting.leave]
  | dropMissed id _ => simp [opens]

theorem outcome (t : Transition w s r) (h : Consistent w) {g : Nat} {o : Outcome}
    (hnone : w.outcome? g = none) (ho : r.2.outcome? g = some o) :
    ∃ n answer, g = n + 1 ∧ w.answers.lookup n = some answer ∧ o = w.outcomeOf answer := by
  cases t with
  | held id _ => simp [hnone] at ho
  | @entered id forced n hn hc =>
    rw [snd_ticked, outcome?_tick] at ho
    obtain ⟨hg, answer, ha, heq⟩ :=
      advance_outcome hc (by omega) id (by rwa [seated_outcome? h]) ho
    rw [seated_answers] at ha
    rw [seated_outcomeOf h] at heq
    exact ⟨n, answer, hg, ha, heq⟩
  | @polled id n hn _ =>
    rw [snd_ticked, outcome?_tick] at ho
    obtain ⟨hg, answer, ha, heq⟩ := advance_outcome h hn id hnone ho
    exact ⟨n, answer, hg, ha, heq⟩
  | pollMissed id _ => simp [hnone] at ho
  | answered call answer => simp [hnone] at ho
  | dropped id => simp [hnone] at ho
  | dropMissed id _ => simp [hnone] at ho

end Transition

end Waiting

end SensorFrames
