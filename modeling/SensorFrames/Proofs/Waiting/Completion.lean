import SensorFrames.Proofs.Waiting.Run

/-!
Gets that complete. Each gets the outcome of one fetch, the newest when the get took hold of it,
and that outcome is fixed once, by an answer to the call of that fetch. A fetch that failed is never
asked again: the next get makes a call of its own.
-/

set_option autoImplicit false

namespace SensorFrames

namespace Waiting

variable {w : Waiting}

/-! ### Waiters across a step -/

/-- The fetch that a get takes hold of, by its generation: the newest once the get has looked at
the cache and started a fetch where it has to. -/
def target (forced : Bool) (w : Waiting) : Nat := (w.cache.enter forced).2.generation

theorem target_eq (forced : Bool) (w : Waiting) :
    w.target forced = w.cache.generation + if w.starts forced then 1 else 0 := by
  unfold target Cache.enter starts
  cases forced with
  | true => rfl
  | false => cases w.cache.phase <;> simp [Cache.start]

namespace Transition

variable {s : Step} {r : Reply × Waiting} {id : String}

theorem waiter (t : Transition w s r) (h : Consistent w) (hs : ∀ forced, s ≠ .get id forced)
    {g : Nat} (hg : r.2.waiters.lookup id = some g) : w.waiters.lookup id = some g := by
  cases t with
  | held name _ => exact lookup_of_leave hg
  | entered name forced hn hc =>
    have hseated := advance_waiter hc (by omega) name hg
    have hne : id ≠ name := by
      intro heq
      exact hs forced (by rw [heq])
    rwa [seated_waiter, if_neg hne] at hseated
  | polled name hn _ => exact advance_waiter h hn name hg
  | pollMissed _ _ => exact hg
  | answered _ _ => exact hg
  | dropped name => exact lookup_of_leave hg
  | dropMissed _ _ => exact hg

theorem mem_answers (t : Transition w s r) (h : Consistent w) {p : Nat × Except Failure Json}
    (hp : p ∈ r.2.answers) : p ∈ w.answers ∨ s = .respond p.1 p.2 := by
  cases t with
  | held _ _ => exact Or.inl hp
  | entered name forced hn hc =>
    rw [snd_ticked, answers_tick, advance_answers hc (by omega), seated_answers] at hp
    exact Or.inl hp
  | polled name hn _ =>
    rw [snd_ticked, answers_tick, advance_answers h hn] at hp
    exact Or.inl hp
  | pollMissed _ _ => exact Or.inl hp
  | answered call answer =>
    rcases List.mem_cons.mp hp with heq | hold
    · exact Or.inr (by rw [heq])
    · exact Or.inl hold
  | dropped _ => exact Or.inl hp
  | dropMissed _ _ => exact Or.inl hp

theorem get_waiter {forced : Bool} (t : Transition w (.get id forced) r) {g : Nat}
    (hg : r.2.waiters.lookup id = some g) : g = w.target forced := by
  cases t with
  | held _ _ =>
    rw [snd_ticked, waiters_tick, lookup_leave, if_pos rfl] at hg
    contradiction
  | entered _ _ hn hc =>
    have hseated := advance_waiter hc (by omega) id hg
    rw [seated_waiter, if_pos rfl, seated_generation, Option.some.injEq] at hseated
    rw [target_eq, hseated]

theorem get_done {forced : Bool} {o : Outcome} (t : Transition w (.get id forced) r)
    (h : Consistent w) (hr : r.1 = .done o) : r.2.outcome? (w.target forced) = some o := by
  cases t with
  | @held _ m hp =>
    cases hr
    have hs : w.starts false = false := by simp [starts, hp]
    rw [target_eq, hs]
    simpa using phaseOf_resolved (h.phase.symm.trans hp)
  | entered _ _ hn hc =>
    have hg : w.target forced = _ := (target_eq forced w).trans (seated_generation id forced w).symm
    rw [hg, hn, snd_ticked, outcome?_tick]
    exact advance_done hc (by omega) id hr

theorem poll_done {o : Outcome} (t : Transition w (.poll id) r) (h : Consistent w)
    (hr : r.1 = .done o) :
    ∃ g, w.waiters.lookup id = some g ∧ r.2.outcome? g = some o := by
  cases t with
  | @polled _ n hn hl =>
    rw [snd_ticked]
    exact ⟨n + 1, hl, (outcome?_tick _ _).trans (advance_done h hn id hr)⟩
  | pollMissed _ _ => simp at hr

end Transition

/-! ### Fetches that end -/

/-- The fetch of generation `g`, whose call is `g - 1`, ends at place `k` of a run: it was open
until then, and an answer to its call was there. The time of the metadata is that of this place. -/
structure EndsAt (w : Waiting) (steps : List Step) (g k : Nat) (answer : Except Failure Json) :
    Prop where
  place : k < steps.length
  before : (w.after (steps.take k)).outcome? g = none
  answered : (w.after (steps.take k)).answers.lookup (g - 1) = some answer
  ended : (w.after (steps.take (k + 1))).outcome? g =
    some (Metadata.outcome w.limit (w.clock (w.time + k)) answer)

theorem exists_endsAt (h : Consistent w) {g : Nat} {o : Outcome} (hw : w.outcome? g = none)
    (steps : List Step) (ho : (w.after steps).outcome? g = some o) :
    ∃ k answer, EndsAt w steps g k answer ∧
      o = Metadata.outcome w.limit (w.clock (w.time + k)) answer := by
  induction steps generalizing w with
  | nil =>
    have hnil : w.outcome? g = some o := ho
    rw [hw] at hnil
    contradiction
  | cons s steps ih =>
    have t := step_transition h s
    cases hs : (w.step s).2.outcome? g with
    | none =>
      obtain ⟨k, answer, hk, heq⟩ := ih (t.consistent h) hs ho
      have htime : (w.step s).2.time + k = w.time + (k + 1) := by rw [t.time h]; omega
      have hended := hk.ended
      rw [(t.later h).limit, (t.later h).clock, htime] at heq hended
      exact ⟨k + 1, answer, ⟨Nat.succ_lt_succ hk.place, hk.before, hk.answered, hended⟩, heq⟩
    | some o' =>
      obtain ⟨n, answer, hg, ha, heq⟩ := t.outcome h hw hs
      have hkept := (later_after (t.consistent h) steps).outcome g o' hs
      rw [after_cons, hkept, Option.some.injEq] at ho
      have hended : (w.step s).2.outcome? g = some (w.outcomeOf answer) := hs.trans (by rw [heq])
      subst hg
      exact ⟨0, answer, ⟨Nat.succ_pos _, hw, ha, hended⟩, ho.symm.trans heq⟩

theorem EndsAt.of_take {steps : List Step} {g k m : Nat} {answer : Except Failure Json}
    (h : EndsAt w (steps.take m) g k answer) : EndsAt w steps g k answer ∧ k < m := by
  have hplace := h.place
  rw [List.length_take] at hplace
  have hk : (steps.take m).take k = steps.take k := by
    rw [List.take_take, Nat.min_eq_left (by omega)]
  have hk' : (steps.take m).take (k + 1) = steps.take (k + 1) := by
    rw [List.take_take, Nat.min_eq_left (by omega)]
  exact ⟨⟨by omega, hk ▸ h.before, hk ▸ h.answered, hk' ▸ h.ended⟩, by omega⟩

theorem mem_answers {steps : List Step} {p : Nat × Except Failure Json} (h : Consistent w)
    (hp : p ∈ (w.after steps).answers) : p ∈ w.answers ∨ Step.respond p.1 p.2 ∈ steps := by
  induction steps generalizing w with
  | nil => exact Or.inl hp
  | cons s steps ih =>
    have t := step_transition h s
    rcases ih (t.consistent h) hp with hs | hs
    · rcases t.mem_answers h hs with hw | heq
      · exact Or.inl hw
      · exact Or.inr (heq ▸ List.mem_cons_self)
    · exact Or.inr (List.mem_cons_of_mem s hs)

theorem EndsAt.responded {steps : List Step} {g k : Nat} {answer : Except Failure Json}
    (h : Consistent w) (hw : w.answers = []) (hk : EndsAt w steps g k answer) :
    Step.respond (g - 1) answer ∈ steps := by
  rcases mem_answers h (mem_of_lookup hk.answered) with hold | hnew
  · simp [hw] at hold
  · exact List.mem_of_mem_take hnew

/-! ### Gets that complete -/

/-- A get of a run, which starts at place `first` and completes at place `last`: there and then, or
at a poll of its waiter, whose place no other get has taken. -/
structure Completed (w : Waiting) (steps : List Step) where
  id : String
  forced : Bool
  first : Nat
  last : Nat
  outcome : Outcome
  starts : steps[first]? = some (.get id forced)
  replies : (w.replies steps)[last]? = some (.done outcome)
  lasts : last = first ∨ first < last ∧ steps[last]? = some (.poll id) ∧
    ∀ k forced', first < k → k < last → steps[k]? ≠ some (.get id forced')

namespace Completed

variable {steps : List Step}

def before (c : Completed w steps) : Waiting := w.after (steps.take c.first)

def fetch (c : Completed w steps) : Nat := c.before.target c.forced

theorem waiter (c : Completed w steps) (h : Consistent w) (j : Nat) (hj : c.first + j < c.last)
    {g : Nat} (hg : (w.after (steps.take (c.first + j + 1))).waiters.lookup c.id = some g) :
    g = c.fetch := by
  -- on the number of steps since the get, none of which is another get with its name
  induction j with
  | zero =>
    rw [Nat.add_zero, after_take_succ c.starts] at hg
    have t := step_transition (after_consistent h (steps.take c.first)) (.get c.id c.forced)
    exact t.get_waiter hg
  | succ j ih =>
    have hc := after_consistent h (steps.take (c.first + j + 1))
    have hlast : c.first + j + 1 < steps.length := by
      have hlen := (List.getElem?_eq_some_iff.mp c.replies).1
      rw [replies_length] at hlen
      omega
    have hs := List.getElem?_eq_getElem hlast
    have hother : ∀ forced, steps[c.first + j + 1] ≠ .get c.id forced := by
      intro forced heq
      rcases c.lasts with hl | ⟨-, -, hquiet⟩
      · omega
      · exact hquiet (c.first + j + 1) forced (by omega) hj (hs.trans (congrArg some heq))
    rw [← Nat.add_assoc, after_take_succ hs] at hg
    have t := step_transition hc steps[c.first + j + 1]
    exact ih (by omega) (t.waiter hc hother hg)

theorem outcome_eq (c : Completed w steps) (h : Consistent w) :
    (w.after (steps.take (c.last + 1))).outcome? c.fetch = some c.outcome := by
  have hc := after_consistent h (steps.take c.last)
  have hr := c.replies
  rw [replies_getElem?] at hr
  rcases c.lasts with hl | ⟨hlt, hs, -⟩
  · rw [hl, c.starts, Option.map_some, Option.some.injEq] at hr
    rw [hl, after_take_succ c.starts]
    have t := step_transition (after_consistent h (steps.take c.first)) (.get c.id c.forced)
    exact t.get_done (after_consistent h (steps.take c.first)) hr
  · rw [hs, Option.map_some, Option.some.injEq] at hr
    rw [after_take_succ hs]
    have t := step_transition hc (.poll c.id)
    obtain ⟨g, hg, ho⟩ := t.poll_done hc hr
    obtain ⟨j, hj⟩ : ∃ j, c.last = c.first + j + 1 := ⟨c.last - c.first - 1, by omega⟩
    rw [hj] at hg
    rwa [← c.waiter h j (by omega) hg]

theorem exists_endsAt (c : Completed w steps) (h : Consistent w)
    (hw : ∀ g, w.outcome? g = none) :
    ∃ k answer, k ≤ c.last ∧ EndsAt w steps c.fetch k answer ∧
      c.outcome = Metadata.outcome w.limit (w.clock (w.time + k)) answer := by
  obtain ⟨k, answer, hk, heq⟩ := Waiting.exists_endsAt h (hw c.fetch) _ (c.outcome_eq h)
  obtain ⟨hends, hlt⟩ := hk.of_take
  exact ⟨k, answer, by omega, hends, heq⟩

theorem exists_endsAt_initial {e : Endpoint} {limit : UInt64} {clock : Nat → Int64}
    (c : Completed (initial e limit clock) steps) :
    ∃ k answer, k ≤ c.last ∧ EndsAt (initial e limit clock) steps c.fetch k answer ∧
      c.outcome = Metadata.outcome limit (clock k) answer := by
  obtain ⟨k, answer, hk, hends, heq⟩ :=
    c.exists_endsAt (initial_consistent e limit clock) (outcome?_initial e limit clock)
  refine ⟨k, answer, hk, hends, heq.trans ?_⟩
  rw [show (initial e limit clock).time + k = k from Nat.zero_add k]
  rfl

theorem final_outcome (c : Completed w steps) (h : Consistent w) :
    (w.after steps).outcome? c.fetch = some c.outcome := by
  have hl := later_after (after_consistent h (steps.take (c.last + 1))) (steps.drop (c.last + 1))
  rw [← after_append, List.take_append_drop] at hl
  exact hl.outcome _ _ (c.outcome_eq h)

theorem before_consistent (c : Completed w steps) (h : Consistent w) : Consistent c.before :=
  after_consistent h (steps.take c.first)

theorem before_eq {later : List Step} (c : Completed w (steps ++ later))
    (hc : c.first = steps.length) : c.before = w.after steps := by
  rw [before, hc, List.take_left]

theorem forced_eq {later : List Step} {name : String} {forced : Bool}
    (c : Completed w (steps ++ .get name forced :: later)) (hc : c.first = steps.length) :
    c.forced = forced := by
  have hget := c.starts
  rw [hc, List.getElem?_append_right (Nat.le_refl _), Nat.sub_self] at hget
  simp only [List.getElem?_cons_zero, Option.some.injEq, Step.get.injEq] at hget
  exact hget.2.symm

theorem fetch_eq (c : Completed w steps) (h : Consistent w) :
    c.fetch = (w.after (steps.take (c.first + 1))).cache.generation := by
  have t := step_transition (c.before_consistent h) (.get c.id c.forced)
  rw [after_take_succ c.starts]
  exact (target_eq c.forced c.before).trans (t.generation (c.before_consistent h)).symm

theorem le_fetch (c : Completed w steps) : c.before.cache.generation ≤ c.fetch := by
  rw [fetch, target_eq]
  omega

/-- A get that starts after another has completed is not served from an older fetch. -/
theorem fetch_mono (c d : Completed w steps) (h : Consistent w) (hcd : c.last < d.first) :
    c.fetch ≤ d.fetch := by
  have hfirst : c.first ≤ c.last := by
    rcases c.lasts with hl | ⟨hl, -⟩ <;> omega
  have hl := later_take h steps (show c.first + 1 ≤ d.first by omega)
  rw [c.fetch_eq h]
  exact Nat.le_trans hl.generation d.le_fetch

end Completed

theorem exists_get (h : Consistent w) (hw : w.waiters = []) (steps : List Step) {id : String}
    {g : Nat} (j : Nat) (hg : (w.after (steps.take j)).waiters.lookup id = some g) :
    ∃ i forced, i < j ∧ steps[i]? = some (.get id forced) ∧
      ∀ k forced', i < k → k < j → steps[k]? ≠ some (.get id forced') := by
  induction j generalizing g with
  | zero =>
    have hnil : w.waiters.lookup id = some g := hg
    simp [hw] at hnil
  | succ j ih =>
    have hnext : ∀ g', (w.after (steps.take j)).waiters.lookup id = some g' →
        (∀ forced', steps[j]? ≠ some (.get id forced')) →
        ∃ i forced, i < j + 1 ∧ steps[i]? = some (.get id forced) ∧
          ∀ k forced', i < k → k < j + 1 → steps[k]? ≠ some (.get id forced') := by
      intro g' hg' hother
      obtain ⟨i, forced, hi, hs, hquiet⟩ := ih hg'
      refine ⟨i, forced, by omega, hs, fun k forced' hik hkj => ?_⟩
      by_cases hk : k = j
      · exact hk ▸ hother forced'
      · exact hquiet k forced' hik (by omega)
    cases hs : steps[j]? with
    | none =>
      rw [List.take_add_one, hs, Option.toList_none, List.append_nil] at hg
      exact hnext g hg (by simp [hs])
    | some s =>
      rw [after_take_succ hs] at hg
      have hc := after_consistent h (steps.take j)
      by_cases hget : ∃ forced, s = .get id forced
      · obtain ⟨forced, heq⟩ := hget
        exact ⟨j, forced, by omega, heq ▸ hs, fun k _ hjk hkj => by omega⟩
      · have hother : ∀ forced, s ≠ .get id forced := fun forced heq => hget ⟨forced, heq⟩
        refine hnext g ((step_transition hc s).waiter hc hother hg) ?_
        intro forced' heq
        rw [hs, Option.some.injEq] at heq
        exact hother forced' heq

theorem exists_completed (h : Consistent w) (hw : w.waiters = []) {steps : List Step} {j : Nat}
    {o : Outcome} (hj : (w.replies steps)[j]? = some (.done o)) :
    ∃ c : Completed w steps, c.last = j ∧ c.outcome = o := by
  have hr := hj
  rw [replies_getElem?] at hr
  obtain ⟨s, hs, hdone⟩ := Option.map_eq_some_iff.mp hr
  have hc := after_consistent h (steps.take j)
  have t := step_transition hc s
  cases s with
  | get id forced => exact ⟨⟨id, forced, j, j, o, hs, hj, Or.inl rfl⟩, rfl, rfl⟩
  | poll id =>
    obtain ⟨g, hg, -⟩ := t.poll_done hc hdone
    obtain ⟨i, forced, hi, hget, hquiet⟩ := exists_get h hw steps j hg
    exact ⟨⟨id, forced, i, j, o, hget, hj, Or.inr ⟨hi, hs, hquiet⟩⟩, rfl, rfl⟩
  | respond call answer => simp [step, act] at hdone
  | drop id =>
    simp only [step, act, fst_ticked] at hdone
    split at hdone <;> simp at hdone

/-- Which fetch a get takes hold of: its own, if it is forced or finds the cache empty, the pending
one, or the one that the value in the cache came from. -/
def Attaches (w : Waiting) (forced : Bool) (g : Nat) : Prop :=
  if w.starts forced then g = w.cache.generation + 1
  else match w.cache.phase with
    | .empty => False
    | .pending p => g = p
    | .resolved m => w.outcome? g = some (.ok m)

theorem target_attaches (h : Consistent w) (forced : Bool) :
    Attaches w forced (w.target forced) := by
  rw [target_eq]
  unfold Attaches
  by_cases hs : w.starts forced = true
  · simp [hs]
  · have hempty : w.cache.phase ≠ .empty := by
      intro hp
      simp [starts, hp] at hs
    simp only [hs]
    cases hp : w.cache.phase with
    | empty => exact hempty hp
    | pending p => exact (phaseOf_pending (h.phase.symm.trans hp)).1.symm
    | resolved m => exact phaseOf_resolved (h.phase.symm.trans hp)

/-- A get that completes has the outcome of the fetch that was the newest when it took hold of it.
That fetch ends once, by the answer that its call has then and at the time of this step, and keeps
its outcome. So gets of one fetch agree, and a get that starts after another has completed is served
by no older fetch. -/
theorem completed_get_outcome (e : Endpoint) (limit : UInt64) (clock : Nat → Int64)
    (steps : List Step) :
    let w := initial e limit clock
    (∀ j o, (w.replies steps)[j]? = some (.done o) →
      ∃ c : Completed w steps, c.last = j ∧ c.outcome = o) ∧
    (∀ c : Completed w steps,
      c.fetch = (w.after (steps.take (c.first + 1))).fetches.length ∧
        Attaches c.before c.forced c.fetch ∧
        (∃ k answer, k ≤ c.last ∧ EndsAt w steps c.fetch k answer ∧
          c.outcome = Metadata.outcome limit (clock k) answer) ∧
        ∀ more, (w.after (steps ++ more)).outcome? c.fetch = some c.outcome) ∧
      (∀ c d : Completed w steps, c.fetch = d.fetch → c.outcome = d.outcome) ∧
      ∀ c d : Completed w steps, c.last < d.first → c.fetch ≤ d.fetch := by
  intro w
  have h : Consistent w := initial_consistent e limit clock
  refine ⟨fun j o hj => exists_completed h rfl hj,
    fun c => ⟨?_, ?_, c.exists_endsAt_initial, fun more => ?_⟩,
    fun c d hcd => ?_, fun c d => c.fetch_mono d h⟩
  · rw [(after_consistent h _).fetches, c.fetch_eq h]
  · exact target_attaches (c.before_consistent h) c.forced
  · rw [after_append]
    exact (later_after (after_consistent h steps) more).outcome _ _ (c.final_outcome h)
  · have hc := c.final_outcome h
    rw [hcd, d.final_outcome h, Option.some.injEq] at hc
    exact hc.symm

/-- Two gets share a fetch. The second is polled first; before the first is, the answer is replaced
and the clock goes on. -/
def sharedRun : List Step :=
  [.get "a" false, .get "b" false, .respond 0 (.ok labBody), .poll "b", .respond 0 (.ok .null),
    .poll "a"]

theorem shared_fetch_completes_twice :
    ∃ c d : Completed (initial labServer 10 seconds) sharedRun,
      c.last < d.last ∧ c.fetch = d.fetch ∧ d.outcome = .ok ⟨["Lab"], ["web"], [], [], 3000⟩ ∧
        c.outcome = d.outcome := by
  let found : Outcome := .ok ⟨["Lab"], ["web"], [], [], 3000⟩
  let c : Completed (initial labServer 10 seconds) sharedRun :=
    ⟨"b", false, 1, 3, found, rfl, rfl, Or.inr ⟨by decide, rfl, fun k _ h h' => by
      obtain rfl : k = 2 := by omega
      simp [sharedRun]⟩⟩
  let d : Completed (initial labServer 10 seconds) sharedRun :=
    ⟨"a", false, 0, 5, found, rfl, rfl, Or.inr ⟨by decide, rfl, fun k _ h h' => by
      have hk : k = 1 ∨ k = 2 ∨ k = 3 ∨ k = 4 := by omega
      rcases hk with rfl | rfl | rfl | rfl <;> simp [sharedRun]⟩⟩
  exact ⟨c, d, by decide, rfl, rfl, (completed_get_outcome _ _ _ _).2.2.1 c d rfl⟩

/-! ### Answers that are there, and failures -/

theorem get_answered (h : Consistent w) (id : String) {n : Nat} {answer : Except Failure Json}
    (hp : w.cache.phase = .pending (n + 1)) (ha : w.answers.lookup n = some answer) :
    (w.step (.get id false)).1 = .done (w.outcomeOf answer) ∧
      (w.step (.get id false)).2.calls = w.calls ∧
      (w.step (.get id false)).2.cache.phase = Cache.phaseAfter (w.outcomeOf answer) := by
  obtain ⟨hgen, -, hnone⟩ := phaseOf_pending (h.phase.symm.trans hp)
  have hs : w.starts false = false := by simp [starts, hp]
  have hseated : (w.seated id false).cache.generation = n + 1 := by
    simp [seated_generation, hs, hgen]
  have hheld : ∀ m, w.cache.phase ≠ .resolved m := fun m hm => by simp [hp] at hm
  obtain ⟨hdone, hcache, hcalls⟩ :=
    get_settles h id hseated (fun _ => hheld) (hgen ▸ hnone) ha
  rw [seated_calls, hs] at hcalls
  exact ⟨hdone, hcalls.trans (List.append_nil _), congrArg Cache.phase hcache⟩

def Step.isGet : Step → Bool
  | .get _ _ => true
  | _ => false

theorem after_quiet (h : Consistent w) (steps : List Step) (hs : ∀ s ∈ steps, s.isGet = false) :
    (w.after steps).calls = w.calls ∧ (w.after steps).cache.generation = w.cache.generation := by
  induction steps generalizing w with
  | nil => exact ⟨rfl, rfl⟩
  | cons s steps ih =>
    have t := step_transition h s
    have hclosed : w.opens s = false := by
      cases s with
      | get id forced => simpa [Step.isGet] using hs _ List.mem_cons_self
      | _ => rfl
    obtain ⟨hcalls, hgen⟩ := ih (t.consistent h) fun s' hs' => hs s' (List.mem_cons_of_mem s hs')
    rw [after_cons, hcalls, hgen, t.calls h, t.generation h, hclosed]
    exact ⟨List.append_nil _, Nat.add_zero _⟩

theorem after_failure (h : Consistent w) {f : Failure} (hf : w.outcome? w.cache.generation =
    some (.error f)) (quiet : List Step) (hs : ∀ s ∈ quiet, s.isGet = false) :
    (w.after quiet).cache.phase = .empty := by
  obtain ⟨-, hgen⟩ := after_quiet h quiet hs
  rw [(after_consistent h quiet).phase, hgen, (later_after h quiet).outcome _ _ hf]
  cases w.cache.generation <;> rfl

theorem starts_after_failure (h : Consistent w) {f : Failure}
    (hf : w.outcome? w.cache.generation = some (.error f)) (quiet : List Step)
    (hs : ∀ s ∈ quiet, s.isGet = false) : (w.after quiet).starts false = true := by
  simp [starts, after_failure h hf quiet hs]

/-- The cache is never stuck: a get that joins a fetch with an answer completes at once and settles
the cache, with or without other waiters. Nor does it repeat a failure: the get after one makes a
call of its own and returns what that call brings, whoever else is polled in between or later. -/
theorem pending_served_and_failure_retried (e : Endpoint) (limit : UInt64)
    (clock : Nat → Int64) (steps : List Step) (id : String) :
    let w := (initial e limit clock).after steps
    (∀ g call answer, w.cache.phase = .pending g → w.call? w.cache.generation = some call →
      w.answers.lookup call = some answer →
        (w.step (.get id false)).1 =
            .done (Metadata.outcome limit (clock steps.length) answer) ∧
        (w.step (.get id false)).2.calls = w.calls ∧
        (w.step (.get id false)).2.cache.phase =
          Cache.phaseAfter (Metadata.outcome limit (clock steps.length) answer)) ∧
      ∀ f quiet later, w.outcome? w.cache.generation = some (.error f) →
        (∀ s ∈ quiet, s.isGet = false) →
        ((w.after quiet).step (.get id false)).2.calls =
            w.calls ++ [Metadata.request e limit] ∧
          ∀ c : Completed (initial e limit clock) (steps ++ quiet ++ .get id false :: later),
            c.first = (steps ++ quiet).length →
            c.fetch = w.cache.generation + 1 ∧
              ∃ k answer,
                EndsAt (initial e limit clock) (steps ++ quiet ++ .get id false :: later)
                  c.fetch k answer ∧
                .respond w.calls.length answer ∈ steps ++ quiet ++ .get id false :: later ∧
                c.outcome = Metadata.outcome limit (clock k) answer := by
  intro w
  have h₀ := initial_consistent e limit clock
  have h : Consistent w := after_consistent h₀ steps
  have hl : Later (initial e limit clock) w := later_after h₀ steps
  constructor
  · intro g call answer hp hcall ha
    obtain ⟨hg, hpos, -⟩ := phaseOf_pending (h.phase.symm.trans hp)
    obtain ⟨n, hn⟩ : ∃ n, w.cache.generation = n + 1 := ⟨w.cache.generation - 1, by omega⟩
    rw [hn, h.call n (by omega), Option.some.injEq] at hcall
    have hnow : w.outcomeOf answer = Metadata.outcome limit (clock steps.length) answer := by
      rw [outcomeOf, now, hl.limit, hl.clock, after_time h₀ steps, initial, Nat.zero_add]
    have hanswered := get_answered h id (hp.trans (by rw [hg, hn])) (hcall ▸ ha)
    rwa [hnow] at hanswered
  · intro f quiet later hf hquiet
    obtain ⟨hcalls, hgen⟩ := after_quiet h quiet hquiet
    have hs := starts_after_failure h hf quiet hquiet
    refine ⟨?_, fun c hc => ?_⟩
    · have hv := after_consistent h quiet
      have hlv := hl.trans (later_after h quiet)
      rw [(step_transition hv (.get id false)).calls hv, opens, hs, hcalls, hlv.endpoint,
        hlv.limit]
      rfl
    · have hfetch : c.fetch = w.cache.generation + 1 := by
        rw [Completed.fetch, c.before_eq hc, c.forced_eq hc, target_eq, after_append, hgen, hs]
        rfl
      obtain ⟨k, answer, -, hends, heq⟩ := c.exists_endsAt_initial
      have hresponded := hends.responded h₀ rfl
      rw [hfetch, Nat.add_sub_cancel, ← h.calls] at hresponded
      exact ⟨hfetch, k, answer, hends, hresponded, heq⟩

def failedRun : List Step :=
  [.get "a" false, .get "b" false, .respond 0 (.ok (.obj [("data", .null)])), .poll "a"]

def desertedRun : List Step := [.get "a" false, .drop "a", .respond 0 (.ok labBody)]

theorem deserted_fetch_served_and_failure_retried :
    (((initial labServer 10 seconds).after desertedRun).waiters = [] ∧
      (((initial labServer 10 seconds).after desertedRun).step (.get "b" false)).1 =
        .done (.ok ⟨["Lab"], ["web"], [], [], 3000⟩) ∧
      (((initial labServer 10 seconds).after desertedRun).step (.get "b" false)).2.cache.phase =
        .resolved ⟨["Lab"], ["web"], [], [], 3000⟩) ∧
    ((initial labServer 10 seconds).after failedRun).outcome? 1 =
      some (.error (.unexpectedBody "object without a data array")) ∧
    ∃ c : Completed (initial labServer 10 seconds)
        (failedRun ++ [.respond 1 (.ok labBody)] ++ .get "c" false :: [.poll "b"]),
      c.id = "c" ∧ c.outcome = .ok ⟨["Lab"], ["web"], [], [], 5000⟩ ∧ c.fetch = 2 := by
  have hserved := (pending_served_and_failure_retried labServer 10 seconds desertedRun "b").1 1 0
    (.ok labBody) rfl rfl rfl
  let c : Completed (initial labServer 10 seconds)
      (failedRun ++ [.respond 1 (.ok labBody)] ++ .get "c" false :: [.poll "b"]) :=
    ⟨"c", false, 5, 5, .ok ⟨["Lab"], ["web"], [], [], 5000⟩, rfl, rfl, Or.inl rfl⟩
  have hretried := (pending_served_and_failure_retried labServer 10 seconds failedRun "c").2
    (.unexpectedBody "object without a data array") [.respond 1 (.ok labBody)] [.poll "b"] rfl
    (by decide)
  exact ⟨⟨rfl, hserved.1, hserved.2.2⟩, rfl, c, rfl, rfl, (hretried.2 c rfl).1⟩

end Waiting

end SensorFrames
