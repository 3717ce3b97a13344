import SensorFrames.Service.Metadata

/-!
A cache of one metadata value. Fetches are numbered by generations, from 1. A get takes the value
that is held, joins the fetch that is pending, or starts a new one; a forced get always starts one.
When a fetch ends, the cache is changed only if that fetch is still the pending one: it then holds
the value, or nothing after a failure.
-/

set_option autoImplicit false

namespace SensorFrames

abbrev Outcome := Except Failure Metadata

namespace Cache

inductive Phase where
  | empty
  | pending (generation : Nat)
  | resolved (m : Metadata)
deriving DecidableEq, Inhabited, Repr

inductive Entry where
  | held (m : Metadata)
  | joined (generation : Nat)
  | started (generation : Nat)
deriving DecidableEq, Inhabited, Repr

end Cache

/-- `generation` is the number of the fetches started so far. -/
structure Cache where
  phase : Cache.Phase := .empty
  generation : Nat := 0
deriving DecidableEq, Inhabited, Repr

namespace Cache

def start (c : Cache) : Entry × Cache :=
  (.started (c.generation + 1), ⟨.pending (c.generation + 1), c.generation + 1⟩)

def enter (forced : Bool) (c : Cache) : Entry × Cache :=
  if forced then c.start
  else match c.phase with
    | .resolved m => (.held m, c)
    | .pending g => (.joined g, c)
    | .empty => c.start

def phaseAfter : Outcome → Phase
  | .ok m => .resolved m
  | .error _ => .empty

def settle (generation : Nat) (outcome : Outcome) (c : Cache) : Cache :=
  if c.phase = .pending generation then { c with phase := phaseAfter outcome } else c

theorem enter_eq_start {c : Cache} {forced : Bool} (h : forced = true ∨ c.phase = .empty) :
    c.enter forced = c.start := by
  rcases h with rfl | hempty
  · rfl
  · simp [enter, hempty]

/-- A cache that waits for no fetch. -/
structure Idle extends Cache where
  noFetch : ∀ g, phase ≠ .pending g := by simp

theorem Idle.enter_cases (c : Idle) (forced : Bool) :
    (∃ m, c.enter forced = (.held m, c.toCache)) ∨ c.enter forced = c.start := by
  have hphase := c.noFetch
  cases forced with
  | true => exact .inr rfl
  | false => cases hp : c.phase <;> simp_all [enter]

theorem Idle.enter_ne_joined (c : Idle) (forced : Bool) (g : Nat) (c' : Cache) :
    c.enter forced ≠ (.joined g, c') := by
  rcases c.enter_cases forced with ⟨m, h⟩ | h <;> simp [h, start]

theorem phase_of_started {c c' : Cache} {forced : Bool} {g : Nat}
    (h : c.enter forced = (.started g, c')) : c'.phase = .pending g := by
  have hstart : c.start = (.started g, c') := by
    unfold enter at h
    split at h
    · exact h
    · split at h <;> simp_all
  simp only [start, Prod.mk.injEq, Entry.started.injEq] at hstart
  rw [← hstart.2, hstart.1]

def ended (c : Cache) (g : Nat) (outcome : Outcome) (h : c.phase = .pending g) : Idle where
  toCache := c.settle g outcome
  noFetch := by cases outcome <;> simp [settle, h, phaseAfter]

end Cache

end SensorFrames
