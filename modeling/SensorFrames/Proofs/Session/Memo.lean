import SensorFrames.Proofs.Query.Format
import SensorFrames.Proofs.Session.Calls
import SensorFrames.Proofs.Session.Refresh

/-!
The cache of a session, told without its phases and generations. The memo is the metadata of the
last fetch that a session made, unless this fetch failed. Main statement: steps that ask for
metadata get the memo, with the time at which it was fetched, or fetch when there is none or they
are forced; other steps know nothing of it.
-/

set_option autoImplicit false

namespace SensorFrames

namespace Session

/-! ### Steps and events -/

/-- The steps that ask the cache, and whether they are forced. A page whose query is refused asks for
nothing. -/
inductive Step.Asks : Step → Bool → Prop where
  | direct (forced : Bool) : Asks (.metadata forced) forced
  | page {query : String} {forced : Bool} (h : Refresh.Says (Refresh.values query) (.ok forced)) :
      Asks (.metadataPage query) forced

/-- A step that was done, its reply and the requests that it sent. -/
structure Event where
  step : Step
  reply : Reply
  calls : List Request

/-- The outcome of the fetch that a step made through the cache. -/
def Event.fetched? (event : Event) : Option Outcome :=
  match event.step, event.reply, event.calls with
  | .metadata _, .metadata outcome, _ :: _ => some outcome
  | .metadataPage _, .metadataPage (.found m), _ :: _ => some (.ok m)
  | .metadataPage _, .metadataPage (.failed f), _ :: _ => some (.error f)
  | _, _, _ => none

def memo (past : List Event) : Option Metadata :=
  (past.filterMap Event.fetched?).getLast?.bind Except.toOption

def callsOf (past : List Event) : List Request := past.flatMap (·.calls)

/-- The answers that the calls after some events get, one after another. -/
def coming (answers : List (Except Failure Json)) (past : List Event) (j : Nat) :
    Except Failure Json :=
  answers.getD ((callsOf past).length + j) Script.noAnswer

def event (s : Session Script) (step : Step) : Event :=
  ⟨step, (s.step step).1, (s.step step).2.link.sent.drop s.link.sent.length⟩

def after (s : Session Script) (steps : List Step) : Session Script := (s.run steps).2

def trace (s : Session Script) : List Step → List Event
  | [] => []
  | step :: steps => s.event step :: trace (s.step step).2 steps

/-! ### The law -/

/-- How a step tells the outcome of its metadata. A page tells it by a status code as well. -/
inductive Tells : Step → Outcome → Reply → Prop where
  | direct (forced : Bool) (outcome : Outcome) :
      Tells (.metadata forced) outcome (.metadata outcome)
  | found (query : String) {m : Metadata} (h : (MetadataPage.found m).statusCode = 200) :
      Tells (.metadataPage query) (.ok m) (.metadataPage (.found m))
  | failed (query : String) {f : Failure} (h : (MetadataPage.failed f).statusCode = 502) :
      Tells (.metadataPage query) (.error f) (.metadataPage (.failed f))

/-- A connection test of a server: its outcome and its calls, given the answer to the first call. -/
inductive Tested (settings : Settings) (e : Endpoint) (answer : Except Failure Json) :
    Except Failure Unit → List Request → Prop where
  | noKey (h : settings.key = "") : Tested settings e answer (.error Client.Missing.key.failure) []
  | noUrl (hkey : settings.key ≠ "") (h : settings.url = "") :
      Tested settings e answer (.error Client.Missing.url.failure) []
  | reached (hkey : settings.key ≠ "") (hurl : settings.url ≠ "") {body : Json}
      (h : answer = .ok body) : Tested settings e answer (.ok ()) [Client.probe.request e]
  | failed (hkey : settings.key ≠ "") (hurl : settings.url ≠ "") {f : Failure}
      (h : answer = .error f) :
      Tested settings e answer (.error (.connectionTest f.detail)) [Client.probe.request e]

/-- A step that does not ask the cache: its reply and its calls, given the time and the answers to
come. -/
inductive Plain (settings : Settings) (e : Endpoint) (now : Int64)
    (next : Nat → Except Failure Json) : Step → Reply → List Request → Prop where
  | alive : Plain settings e now next .alive .alive []
  | refused {query : String} {fault : Refresh.ParseError}
      (hquery : Refresh.Says (Refresh.values query) (.error fault))
      (h : (MetadataPage.refused fault).statusCode = 400) :
      Plain settings e now next (.metadataPage query) (.metadataPage (.refused fault)) []
  | rejected {request : Json} {fault : Json.DecodeError} (h : Batch.decode request = .error fault) :
      Plain settings e now next (.query request) (.rejected fault) []
  | query {request : Json} {b : Batch} {shown : List Query} (h : Batch.decode request = .ok b)
      (hshown : shown = b.targets.filter (!·.hide)) :
      Plain settings e now next (.query request) (.frames (framesFrom next shown))
        (shown.map fun q => q.listing.request e)
  | objects (l : Listing) :
      Plain settings e now next (.objects l) (.page (l.outcome (next 0))) [l.request e]
  | collect (limit : UInt64) :
      Plain settings e now next (.collect limit) (.metadata (Metadata.outcome limit now (next 0)))
        [Metadata.request e limit]
  | testConnection {outcome : Except Failure Unit} {calls : List Request}
      (h : Tested settings e (next 0) outcome calls) :
      Plain settings e now next .testConnection (.connection outcome) calls
  | health {outcome : Except Failure Unit} {calls : List Request}
      (h : Tested settings e (next 0) outcome calls)
      (hreach : (Health.ofTest outcome).isReachable = true ↔ outcome = .ok ()) :
      Plain settings e now next .health (.health (.ofTest outcome)) calls

/-- What an event may be, given the memo, the time and the answers to come. -/
inductive Lawful (settings : Settings) (memo : Option Metadata) (now : Int64)
    (next : Nat → Except Failure Json) : Event → Prop where
  | recalled {step : Step} {m : Metadata} {reply : Reply} (hstep : step.Asks false)
      (hmemo : memo = some m) (h : Tells step (.ok m) reply) :
      Lawful settings memo now next ⟨step, reply, []⟩
  | fetched {step : Step} {forced : Bool} {reply : Reply} (hstep : step.Asks forced)
      (hmemo : forced = true ∨ memo = none)
      (h : Tells step (Metadata.outcome settings.metadataLimit now (next 0)) reply) :
      Lawful settings memo now next
        ⟨step, reply, [Metadata.request ⟨settings.url, settings.portNumber, settings.key⟩
          settings.metadataLimit]⟩
  | plain {step : Step} {reply : Reply} {calls : List Request}
      (h : Plain settings ⟨settings.url, settings.portNumber, settings.key⟩ now next step reply
        calls) :
      Lawful settings memo now next ⟨step, reply, calls⟩

/-! ### The law leaves nothing open -/

section Unique

variable {settings : Settings} {e : Endpoint} {now : Int64} {next : Nat → Except Failure Json}
  {step : Step} {reply reply' : Reply} {calls calls' : List Request}

theorem Step.Asks.unique {forced forced' : Bool} (h : step.Asks forced) (h' : step.Asks forced') :
    forced = forced' := by
  cases h with
  | direct => cases h'; rfl
  | page h =>
    cases h' with
    | page h' => exact Except.ok.inj (h.unique h')

theorem Tells.unique {outcome : Outcome} (h : Tells step outcome reply)
    (h' : Tells step outcome reply') : reply = reply' := by
  cases h <;> cases h' <;> rfl

theorem Tested.unique {answer : Except Failure Json} {outcome outcome' : Except Failure Unit}
    (h : Tested settings e answer outcome calls) (h' : Tested settings e answer outcome' calls') :
    outcome = outcome' ∧ calls = calls' := by
  cases h <;> cases h' <;> simp_all

theorem Plain.unique (h : Plain settings e now next step reply calls)
    (h' : Plain settings e now next step reply' calls') : reply = reply' ∧ calls = calls' := by
  cases h with
  | refused hquery =>
    cases h' with
    | refused hquery' =>
      obtain rfl := Except.error.inj (hquery.unique hquery')
      exact ⟨rfl, rfl⟩
  | testConnection h =>
    cases h' with
    | testConnection h' =>
      obtain ⟨rfl, rfl⟩ := h.unique h'
      exact ⟨rfl, rfl⟩
  | health h _ =>
    cases h' with
    | health h' _ =>
      obtain ⟨rfl, rfl⟩ := h.unique h'
      exact ⟨rfl, rfl⟩
  | _ => cases h' <;> simp_all

theorem Plain.not_asks (h : Plain settings e now next step reply calls) (forced : Bool) :
    ¬ step.Asks forced := by
  intro hasks
  cases hasks with
  | direct => cases h
  | page hquery =>
    cases h with
    | refused hquery' => cases hquery.unique hquery'

/-- A step has one event at most: whether it asks the cache, is forced and finds a memo decides
which part of the law it falls under. -/
theorem Lawful.unique {memo : Option Metadata} {ev ev' : Event}
    (h : Lawful settings memo now next ev) (h' : Lawful settings memo now next ev')
    (hstep : ev.step = ev'.step) : ev = ev' := by
  cases h with
  | recalled hasks hmemo htells =>
    cases h' with
    | recalled _ hmemo' htells' =>
      obtain rfl := hstep
      obtain rfl := Option.some.inj (hmemo.symm.trans hmemo')
      rw [htells.unique htells']
    | fetched hasks' hmemo' _ =>
      obtain rfl := hstep
      obtain rfl := hasks.unique hasks'
      simp_all
    | plain hplain =>
      obtain rfl := hstep
      exact absurd hasks (hplain.not_asks false)
  | fetched hasks hmemo htells =>
    cases h' with
    | recalled hasks' hmemo' _ =>
      obtain rfl := hstep
      obtain rfl := hasks.unique hasks'
      simp_all
    | fetched _ _ htells' =>
      obtain rfl := hstep
      rw [htells.unique htells']
    | plain hplain =>
      obtain rfl := hstep
      exact absurd hasks (hplain.not_asks _)
  | plain hplain =>
    cases h' with
    | recalled hasks' _ _ =>
      obtain rfl := hstep
      exact absurd hasks' (hplain.not_asks false)
    | fetched hasks' _ _ =>
      obtain rfl := hstep
      exact absurd hasks' (hplain.not_asks _)
    | plain hplain' =>
      obtain rfl := hstep
      obtain ⟨rfl, rfl⟩ := hplain.unique hplain'
      rfl

end Unique

/-! ### The memo of an event -/

theorem memo_concat (past : List Event) (event : Event) :
    memo (past ++ [event]) =
      match event.fetched? with
      | some outcome => outcome.toOption
      | none => memo past := by
  cases h : event.fetched? <;> simp [memo, h]

theorem fetched?_of_no_calls (step : Step) (reply : Reply) :
    (Event.mk step reply []).fetched? = none := by
  unfold Event.fetched?
  split <;> first | rfl | contradiction

theorem fetched?_of_tells {step : Step} {outcome : Outcome} {reply : Reply}
    (h : Tells step outcome reply) (call : Request) (calls : List Request) :
    (Event.mk step reply (call :: calls)).fetched? = some outcome := by
  cases h <;> rfl

theorem fetched?_of_plain {settings : Settings} {e : Endpoint} {now : Int64}
    {next : Nat → Except Failure Json} {step : Step} {reply : Reply} {calls : List Request}
    (h : Plain settings e now next step reply calls) :
    (Event.mk step reply calls).fetched? = none := by
  cases h <;> rfl

/-! ### Single steps -/

def phaseOf : Option Metadata → Cache.Phase
  | some m => .resolved m
  | none => .empty

theorem phaseAfter_eq (outcome : Outcome) :
    Cache.phaseAfter outcome = phaseOf outcome.toOption := by
  cases outcome <;> rfl

abbrev server (settings : Settings) : Endpoint :=
  ⟨settings.url, settings.portNumber, settings.key⟩

theorem tested (settings : Settings) (s : Script) :
    ∃ outcome calls, Tested settings (server settings) (s.upcoming 0) outcome calls ∧
      Client.testConnection ⟨Script.transport, server settings⟩ s = (outcome, s.sending calls) := by
  rw [Client.testConnection_script, Client.missing?]
  by_cases hkey : settings.key = ""
  · exact ⟨_, [], .noKey hkey, by simp [hkey]⟩
  · by_cases hurl : settings.url = ""
    · exact ⟨_, [], .noUrl hkey hurl, by simp [hkey, hurl]⟩
    · cases hanswer : s.upcoming 0 with
      | ok body => exact ⟨_, _, .reached hkey hurl rfl, by simp [hkey, hurl, Client.probeOutcome]⟩
      | error f => exact ⟨_, _, .failed hkey hurl rfl, by simp [hkey, hurl, Client.probeOutcome]⟩

theorem isReachable_ofTest (outcome : Except Failure Unit) :
    (Health.ofTest outcome).isReachable = true ↔ outcome = .ok () := by
  cases outcome <;> simp [Health.ofTest]

variable {settings : Settings} {s : Session Script} {step : Step}

theorem plain_step (hclient : s.client = ⟨Script.transport, server settings⟩)
    (hstep : ∀ forced, ¬ step.Asks forced) :
    ∃ reply calls, Plain settings (server settings) s.now s.link.upcoming step reply calls ∧
      ∀ cache, Session.step { s with cache } step =
        (reply, { s with cache, link := s.link.sending calls }.tick) := by
  obtain ⟨client, limit, held, link, clock, time⟩ := s
  obtain rfl : client = ⟨Script.transport, server settings⟩ := hclient
  cases step with
  | alive => exact ⟨_, _, .alive, fun cache => by simp [Session.step, act]⟩
  | metadata forced => exact absurd (.direct forced) (hstep forced)
  | metadataPage query =>
    cases hquery : Refresh.ofQuery query with
    | ok forced => exact absurd (.page (Refresh.ofQuery_eq_iff.mp hquery)) (hstep forced)
    | error fault =>
      exact ⟨_, _, .refused (Refresh.ofQuery_eq_iff.mp hquery) rfl,
        fun cache => by simp [Session.step, act, hquery]⟩
  | query request =>
    cases hdecode : Batch.decode request with
    | error fault =>
      exact ⟨_, _, .rejected hdecode, fun cache => by simp [Session.step, act, hdecode]⟩
    | ok b =>
      exact ⟨_, _, .query hdecode rfl,
        fun cache => by simp [Session.step, act, hdecode, frames_script, Batch.visible]⟩
  | objects l =>
    exact ⟨_, _, .objects l, fun cache => by simp [Session.step, act, Client.list_script]⟩
  | collect limit =>
    exact ⟨_, _, .collect limit,
      fun cache => by simp [Session.step, act, now, Client.collect_script]⟩
  | testConnection =>
    obtain ⟨outcome, calls, htested, htest⟩ := tested settings link
    exact ⟨_, _, .testConnection htested, fun cache => by simp [Session.step, act, htest]⟩
  | health =>
    obtain ⟨outcome, calls, htested, htest⟩ := tested settings link
    exact ⟨_, _, .health htested (isReachable_ofTest outcome),
      fun cache => by simp [Session.step, act, htest]⟩

theorem asking_step {forced : Bool} (hstep : step.Asks forced) :
    ∃ reply, Tells step (s.metadata forced).1 reply ∧
      s.step step = (reply, (s.metadata forced).2.tick) := by
  cases hstep with
  | direct => exact ⟨_, .direct forced _, rfl⟩
  | @page query _ h =>
    have hpage : s.step (.metadataPage query) =
        (.metadataPage (.ofOutcome (s.metadata forced).1), (s.metadata forced).2.tick) := by
      simp [Session.step, act, Refresh.ofQuery_eq_iff.mpr h]
    rw [hpage]
    cases (s.metadata forced).1 with
    | ok m => exact ⟨_, .found query rfl, rfl⟩
    | error f => exact ⟨_, .failed query rfl, rfl⟩

theorem metadata_recalled {m : Metadata} (h : s.cache.phase = .resolved m) :
    s.metadata false = (.ok m, s) :=
  metadata_held (by simp [Cache.enter, h])

theorem metadata_fetched {e : Endpoint} (hclient : s.client = ⟨Script.transport, e⟩)
    {limit : UInt64} (hlimit : s.metadataLimit = limit) {forced : Bool}
    (h : forced = true ∨ s.cache.phase = .empty) :
    ∃ cache : Cache.Idle, cache.toCache =
        ⟨Cache.phaseAfter (Metadata.outcome limit s.now (s.link.upcoming 0)),
          s.cache.generation + 1⟩ ∧
        s.metadata forced = (Metadata.outcome limit s.now (s.link.upcoming 0),
          { s with cache, link := s.link.sending [Metadata.request e limit] }) := by
  rw [metadata_started (Cache.enter_eq_start h), hclient, hlimit, Client.collect_script]
  exact ⟨_, by simp [Cache.ended, Cache.settle, Cache.start], rfl⟩

/-! ### Runs -/

theorem event_eq {reply : Reply} {calls : List Request} {s' : Session Script}
    (h : s.step step = (reply, s')) (hlink : s'.link = s.link.sending calls) :
    s.event step = ⟨step, reply, calls⟩ := by
  simp [event, h, hlink]

theorem callsOf_concat (past : List Event) (event : Event) :
    callsOf (past ++ [event]) = callsOf past ++ event.calls := by
  simp [callsOf]

/-- What the state of a session has to do with the events that led to it. -/
structure Agrees (settings : Settings) (answers : List (Except Failure Json))
    (clock : Nat → Int64) (past : List Event) (s : Session Script) : Prop where
  client : s.client = ⟨Script.transport, server settings⟩
  limit : s.metadataLimit = settings.metadataLimit
  phase : s.cache.phase = phaseOf (memo past)
  link : s.link = ⟨answers, callsOf past⟩
  clock : s.clock = clock
  time : s.time = past.length

variable {answers : List (Except Failure Json)} {clock : Nat → Int64} {past : List Event}

namespace Agrees

theorem ofSettings (settings : Settings) (answers : List (Except Failure Json))
    (clock : Nat → Int64) :
    Agrees settings answers clock []
      (ofSettings Script.transport settings ⟨answers, []⟩ clock) :=
  ⟨rfl, rfl, rfl, rfl, rfl, rfl⟩

theorem upcoming (h : Agrees settings answers clock past s) :
    s.link.upcoming = coming answers past := by
  rw [h.link]
  rfl

theorem now (h : Agrees settings answers clock past s) : s.now = clock past.length := by
  rw [Session.now, h.clock, h.time]

theorem concat (h : Agrees settings answers clock past s) {event : Event} {cache : Cache.Idle}
    (hphase : cache.phase = phaseOf (memo (past ++ [event]))) :
    Agrees settings answers clock (past ++ [event])
      { s with cache, link := s.link.sending event.calls }.tick where
  client := h.client
  limit := h.limit
  phase := hphase
  link := by rw [tick, h.link, callsOf_concat]; rfl
  clock := h.clock
  time := by rw [tick, h.time, List.length_append]; rfl

/-- What one step comes to: its event is lawful, and agrees with the state after it. -/
def Kept (settings : Settings) (answers : List (Except Failure Json)) (clock : Nat → Int64)
    (past : List Event) (s : Session Script) (step : Step) : Prop :=
  Lawful settings (memo past) (clock past.length) (coming answers past) (s.event step) ∧
    Agrees settings answers clock (past ++ [s.event step]) (s.step step).2

theorem kept_plain (h : Agrees settings answers clock past s)
    (hstep : ∀ forced, ¬ step.Asks forced) : Kept settings answers clock past s step := by
  obtain ⟨reply, calls, hplain, hcache⟩ := plain_step h.client hstep
  rw [Kept, event_eq (hcache s.cache) rfl, hcache s.cache]
  refine ⟨.plain (h.now ▸ h.upcoming ▸ hplain), h.concat ?_⟩
  rw [memo_concat, fetched?_of_plain hplain, h.phase]

theorem kept_recalled (h : Agrees settings answers clock past s) (hstep : step.Asks false)
    {m : Metadata} (hmemo : memo past = some m) : Kept settings answers clock past s step := by
  have hphase : s.cache.phase = .resolved m := by rw [h.phase, hmemo, phaseOf]
  obtain ⟨reply, htells, hreply⟩ := asking_step (s := s) hstep
  rw [metadata_recalled hphase] at htells hreply
  have hsame : s = { s with link := s.link.sending [] } := by rw [Script.sending_nil]
  rw [Kept, event_eq hreply (Script.sending_nil _).symm, hreply]
  refine ⟨.recalled hstep hmemo htells, ?_⟩
  rw [hsame]
  refine h.concat ?_
  rw [memo_concat, fetched?_of_no_calls, h.phase]

theorem kept_fetched (h : Agrees settings answers clock past s) {forced : Bool}
    (hstep : step.Asks forced) (hmemo : forced = true ∨ memo past = none) :
    Kept settings answers clock past s step := by
  have hphase : forced = true ∨ s.cache.phase = .empty :=
    hmemo.imp_right fun hnone => by rw [h.phase, hnone, phaseOf]
  obtain ⟨reply, htells, hreply⟩ := asking_step (s := s) hstep
  obtain ⟨cache, hcache, hfetched⟩ := metadata_fetched h.client h.limit hphase
  rw [h.now, h.upcoming] at hcache hfetched
  rw [hfetched] at htells hreply
  rw [Kept, event_eq hreply rfl, hreply]
  refine ⟨.fetched hstep hmemo htells, h.concat ?_⟩
  rw [memo_concat, fetched?_of_tells htells, hcache, phaseAfter_eq]

theorem kept (h : Agrees settings answers clock past s) (step : Step) :
    Kept settings answers clock past s step := by
  by_cases hasks : ∃ forced, step.Asks forced
  · obtain ⟨forced, hstep⟩ := hasks
    cases forced with
    | true => exact h.kept_fetched hstep (.inl rfl)
    | false =>
      cases hmemo : memo past with
      | some m => exact h.kept_recalled hstep hmemo
      | none => exact h.kept_fetched hstep (.inr hmemo)
  · exact h.kept_plain (not_exists.mp hasks)

theorem after (h : Agrees settings answers clock past s) (steps : List Step) :
    Agrees settings answers clock (past ++ s.trace steps) (s.after steps) := by
  induction steps generalizing s past with
  | nil => rwa [trace, List.append_nil]
  | cons step steps ih =>
    have htail := ih (h.kept step).2
    rwa [List.append_assoc] at htail

end Agrees

theorem replies_trace (s : Session Script) (steps : List Step) :
    (s.trace steps).map (·.reply) = (s.run steps).1 := by
  induction steps generalizing s with
  | nil => rfl
  | cons step steps ih => exact congrArg _ (ih (s.step step).2)

theorem trace_append (s : Session Script) (steps more : List Step) :
    s.trace (steps ++ more) = s.trace steps ++ (s.after steps).trace more := by
  induction steps generalizing s with
  | nil => rfl
  | cons step steps ih => exact congrArg _ (ih (s.step step).2)

/-- After any steps, the next one does what the law of the memo says, and nothing else. One that does
not ask the cache for metadata neither changes the memo nor depends on what the cache holds. What a
page asks for stands in the text of its query, and a batch in the members of its request. -/
theorem steps_obey_memo (settings : Settings) (answers : List (Except Failure Json))
    (clock : Nat → Int64) (steps : List Step) (step : Step) :
    let start := ofSettings Script.transport settings ⟨answers, []⟩ clock
    let past := start.trace steps
    let s := start.after steps
    (past.map (·.reply) = (start.run steps).1 ∧ s.link = ⟨answers, callsOf past⟩) ∧
      start.trace (steps ++ [step]) = past ++ [s.event step] ∧
      Lawful settings (memo past) (clock past.length) (coming answers past) (s.event step) ∧
      (∀ ev, Lawful settings (memo past) (clock past.length) (coming answers past) ev →
        ev.step = step → ev = s.event step) ∧
      ((∀ forced, ¬ step.Asks forced) → memo (past ++ [s.event step]) = memo past ∧
        ∀ cache, Session.step { s with cache } step =
          ((s.step step).1, { (s.step step).2 with cache })) ∧
      (∀ ps : List (String × String), Refresh.values (Text.Form.written ps) =
        (ps.filter (·.1 = "refresh")).map fun p => Text.Percent.utf8 p.2) ∧
      ∀ b : Batch, Batch.decode
        (.object [("targets", .arr (b.targets.map fun q => .object q.members))]) = .ok b := by
  intro start past s
  have hagrees : Agrees settings answers clock past s :=
    (Agrees.ofSettings settings answers clock).after steps
  refine ⟨⟨replies_trace start steps, hagrees.link⟩, trace_append start steps [step],
    (hagrees.kept step).1, fun ev hev => hev.unique (hagrees.kept step).1, fun hstep => ?_,
    Refresh.values_written, Batch.decode_object⟩
  obtain ⟨reply, calls, hplain, hcache⟩ := plain_step hagrees.client hstep
  have hnow : s.step step = _ := hcache s.cache
  constructor
  · rw [event_eq hnow rfl, memo_concat, fetched?_of_plain hplain]
  · intro cache
    rw [hcache cache, hnow]
    rfl

/-- Metadata is asked for over HTTP; the client beside the session fails, the connection is tested,
a query string is refused and a panel is shown. The session has its metadata still, with the time of
its fetch. -/
theorem failed_collect_keeps_memo :
    let settings : Settings := { url := "https://prtg.local", key := "key" }
    let e : Endpoint := ⟨"https://prtg.local", 1616, "key"⟩
    let answers := [.ok (.arr [.obj [("group", .str "Lab")]]), .error (.transport "timeout"),
      .ok .null]
    let clock : Nat → Int64 := fun n => .ofNat (100 + n)
    let found : Metadata := ⟨["Lab"], [], [], [], 100⟩
    let panel : Query := { refId := "A" }
    let request : Json := .object [("targets", .arr [.object panel.members])]
    (∀ forced, ¬ Step.Asks (.collect 5) forced) ∧
    (ofSettings Script.transport settings ⟨answers, []⟩ clock).trace
        [.metadataPage "refresh=true", .collect 5, .testConnection,
          .metadataPage "refresh=true&refresh=false", .query request, .metadataPage "x=1"] =
      [⟨.metadataPage "refresh=true", .metadataPage (.found found), [Metadata.request e 1000]⟩,
        ⟨.collect 5, .metadata (.error (.transport "timeout")), [Metadata.request e 5]⟩,
        ⟨.testConnection, .connection (.ok ()), [Client.probe.request e]⟩,
        ⟨.metadataPage "refresh=true&refresh=false", .metadataPage (.refused .repeated), []⟩,
        ⟨.query request, .frames [panel.frameOf (.error (.transport "no scripted response"))],
          [panel.listing.request e]⟩,
        ⟨.metadataPage "x=1", .metadataPage (.found found), []⟩] := by
  intro settings e answers clock found panel request
  have hnext : ∀ (steps : List Step) (past : List Event) (event : Event),
      (ofSettings Script.transport settings ⟨answers, []⟩ clock).trace steps = past →
      Lawful settings (memo past) (clock past.length) (coming answers past) event →
      (ofSettings Script.transport settings ⟨answers, []⟩ clock).trace (steps ++ [event.step]) =
        past ++ [event] := by
    rintro steps _ event rfl hlawful
    obtain ⟨-, htrace, -, hunique, -⟩ :=
      steps_obey_memo settings answers clock steps event.step
    rw [htrace, ← hunique event hlawful rfl]
  have hyes : Refresh.Says (Refresh.values "refresh=true") (.ok true) := by
    rw [show Refresh.values "refresh=true" = [Text.Percent.utf8 "true"] by decide]
    exact .yes
  have hagain : Refresh.Says (Refresh.values "refresh=true&refresh=false")
      (.error .repeated) := by
    rw [show Refresh.values "refresh=true&refresh=false" =
      [Text.Percent.utf8 "true", Text.Percent.utf8 "false"] by decide]
    exact .again _ [] (.inl rfl)
  have hmissing : Refresh.Says (Refresh.values "x=1") (.ok false) := by
    rw [show Refresh.values "x=1" = [] by decide]
    exact .missing
  have hpage := hnext [] [] _ rfl
    (.fetched (.page hyes) (.inl rfl) (.found (m := found) "refresh=true" rfl))
  have hcollect := hnext _ _ _ hpage (.plain (.collect 5))
  have htest := hnext _ _ _ hcollect (.plain (.testConnection
    (.reached (by decide) (by decide) rfl)))
  have hrefused := hnext _ _ _ htest (.plain (.refused hagain rfl))
  have hquery := hnext _ _ _ hrefused (.plain (.query (Batch.decode_object ⟨[panel]⟩) rfl))
  have hrecalled := hnext _ _ _ hquery (.recalled (.page hmissing) (m := found) rfl
    (.found "x=1" rfl))
  exact ⟨fun _ h => (nomatch h), hrecalled⟩

end Session

end SensorFrames
