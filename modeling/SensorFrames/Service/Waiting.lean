import SensorFrames.Service.Cache

/-!
Callers that wait for a cache while its requests are open. A fetch is shared by all who wait for
it and does nothing until one of them polls it. The first poll makes its call; the first that finds
an answer there ends the fetch, which keeps its outcome from then on. Whoever sees a fetch ended
settles the cache. Those who poll later get the same outcome, whatever answer is set and whatever
the clock reads by then.
-/

set_option autoImplicit false

namespace SensorFrames

namespace Waiting

/-- A fetch by what its polls have come to: no call yet, a call that is open, an outcome. -/
inductive Fetch where
  | fresh
  | asked (call : Nat)
  | ended (call : Nat) (outcome : Outcome)

def Fetch.call? : Fetch → Option Nat
  | fresh => none
  | asked call | ended call _ => some call

def Fetch.outcome? : Fetch → Option Outcome
  | fresh | asked _ => none
  | ended _ outcome => some outcome

inductive Step where
  | get (id : String) (forced : Bool)
  | poll (id : String)
  | respond (call : Nat) (answer : Except Failure Json)
  | drop (id : String)

inductive Reply where
  | pending
  | done (outcome : Outcome)
  | noWaiter
  | answerSet
  | dropped

end Waiting

open Waiting

/-- The fetches stand in the order of their generations, the calls in the order they were made, and
of the answers to one call the newest comes first. A waiter has the generation it waits for. `time`
is the number of the steps before, and `clock` what the clock reads at each time. -/
structure Waiting where
  endpoint : Endpoint
  limit : UInt64
  cache : Cache := {}
  fetches : List Fetch := []
  calls : List Request := []
  answers : List (Nat × Except Failure Json) := []
  waiters : List (String × Nat) := []
  clock : Nat → Int64 := fun _ => 0
  time : Nat := 0

namespace Waiting

def initial (e : Endpoint) (limit : UInt64) (clock : Nat → Int64) : Waiting :=
  { endpoint := e, limit, clock }

def now (w : Waiting) : Int64 := w.clock w.time

/-- The fetch of a generation, which count from 1. -/
def fetch? : Nat → Waiting → Option Fetch
  | 0, _ => none
  | n + 1, w => w.fetches[n]?

def put : Nat → Fetch → Waiting → Waiting
  | 0, _, w => w
  | n + 1, f, w => { w with fetches := w.fetches.set n f }

def call? (generation : Nat) (w : Waiting) : Option Nat := (w.fetch? generation).bind Fetch.call?

def outcome? (generation : Nat) (w : Waiting) : Option Outcome :=
  (w.fetch? generation).bind Fetch.outcome?

def leave (id : String) (w : Waiting) : Waiting :=
  { w with waiters := w.waiters.filter (·.1 ≠ id) }

def join (id : String) (generation : Nat) (w : Waiting) : Waiting :=
  { w with waiters := w.waiters ++ [(id, generation)] }

def launch (w : Waiting) : Waiting := { w with fetches := w.fetches ++ [.fresh] }

def ask (generation : Nat) (w : Waiting) : Waiting :=
  { w with calls := w.calls ++ [Metadata.request w.endpoint w.limit] }.put generation
    (.asked w.calls.length)

def look (generation call : Nat) (w : Waiting) : Option Outcome × Waiting :=
  match w.answers.lookup call with
  | none => (none, w)
  | some answer =>
    let outcome := Metadata.outcome w.limit w.now answer
    (some outcome, w.put generation (.ended call outcome))

def pollFetch (generation : Nat) (w : Waiting) : Option Outcome × Waiting :=
  match w.fetch? generation with
  | none => (none, w)
  | some .fresh => (w.ask generation).look generation w.calls.length
  | some (.asked call) => w.look generation call
  | some (.ended _ outcome) => (some outcome, w)

def settle (generation : Nat) (outcome : Outcome) (w : Waiting) : Waiting :=
  { w with cache := w.cache.settle generation outcome }

def advance (id : String) (generation : Nat) (w : Waiting) : Reply × Waiting :=
  match w.pollFetch generation with
  | (none, w) => (.pending, w)
  | (some outcome, w) => (.done outcome, (w.settle generation outcome).leave id)

/-- A get takes the place of a waiter with its name, and is polled once. -/
def get (id : String) (forced : Bool) (w : Waiting) : Reply × Waiting :=
  let w := w.leave id
  match w.cache.enter forced with
  | (.held m, _) => (.done (.ok m), w)
  | (.joined g, cache) => ({ w with cache }.join id g).advance id g
  | (.started g, cache) => ({ w with cache }.launch.join id g).advance id g

def poll (id : String) (w : Waiting) : Reply × Waiting :=
  match w.waiters.lookup id with
  | none => (.noWaiter, w)
  | some g => w.advance id g

/-- Sets the answer to a call, which may not have been made yet. -/
def respond (call : Nat) (answer : Except Failure Json) (w : Waiting) : Waiting :=
  { w with answers := (call, answer) :: w.answers }

def act (w : Waiting) : Step → Reply × Waiting
  | .get id forced => w.get id forced
  | .poll id => w.poll id
  | .respond call answer => (.answerSet, w.respond call answer)
  | .drop id => match w.waiters.lookup id with
    | none => (.noWaiter, w)
    | some _ => (.dropped, w.leave id)

def tick (w : Waiting) : Waiting := { w with time := w.time + 1 }

def ticked (r : Reply × Waiting) : Reply × Waiting := (r.1, r.2.tick)

def step (w : Waiting) (s : Step) : Reply × Waiting := ticked (w.act s)

def run (w : Waiting) : List Step → List Reply × Waiting
  | [] => ([], w)
  | s :: steps =>
    let (reply, w) := w.step s
    let (replies, w) := run w steps
    (reply :: replies, w)

end Waiting

end SensorFrames
