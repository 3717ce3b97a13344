import SensorFrames.Heatmap
import SensorFrames.Query.Format
import SensorFrames.Service.Client
import SensorFrames.Service.Health
import SensorFrames.Service.MetadataPage
import SensorFrames.Settings.Basic
import SensorFrames.Table

/-!
A session serves one dashboard after another from one endpoint: it answers batches of queries with
frames, checks the connection, and hands out metadata through its cache. Each step runs to its end
before the next begins, so that no fetch is pending between two steps. Requests of a client beside
it go over the same transport, but know nothing of the cache.
-/

set_option autoImplicit false

namespace SensorFrames

def Query.shape (q : Query) (records : List Record) : Frame :=
  match q.viewMode with
  | .heatmap => Heatmap.frame q.refId (Heatmap.rows records)
  | .table => Table.frame q.refId records q.requestedColumns

def Query.frameOf (q : Query) : Except Failure Page → Frame
  | .ok page => q.shape page.records
  | .error f => Frame.ofMessage q.refId ("Failed to fetch data: " ++ f.message)

def Batch.visible (b : Batch) : List Query := b.targets.filter (!·.hide)

namespace Session

/-- What is asked of a session, or of the client beside it: the last three. -/
inductive Step where
  | query (request : Json)
  | health
  | alive
  | metadata (forced : Bool)
  | metadataPage (query : String)
  | objects (l : Listing)
  | testConnection
  | collect (limit : UInt64)

inductive Reply where
  | frames (frames : List Frame)
  | rejected (e : Json.DecodeError)
  | health (health : Health)
  | alive
  | metadata (outcome : Outcome)
  | metadataPage (page : MetadataPage)
  | page (outcome : Except Failure Page)
  | connection (outcome : Except Failure Unit)

end Session

open Session

/-- `σ` is what the transport remembers. `time` is the number of the steps before, and `clock` what
the clock reads at each time. -/
structure Session (σ : Type) where
  client : Client σ
  metadataLimit : UInt64
  cache : Cache.Idle := {}
  link : σ
  clock : Nat → Int64 := fun _ => 0
  time : Nat := 0

namespace Session

variable {σ : Type}

def ofSettings (transport : Transport σ) (settings : Settings) (link : σ)
    (clock : Nat → Int64 := fun _ => 0) : Session σ where
  client := ⟨transport, settings.endpoint⟩
  metadataLimit := settings.metadataLimit
  link := link
  clock := clock

def now (s : Session σ) : Int64 := s.clock s.time

def frames (client : Client σ) : List Query → σ → List Frame × σ
  | [], s => ([], s)
  | q :: queries, s =>
    let (outcome, s) := client.list q.listing s
    let (frames, s) := frames client queries s
    (q.frameOf outcome :: frames, s)

/-- A get from the cache. The fetch that it starts ends with it. -/
def metadata (forced : Bool) (s : Session σ) : Outcome × Session σ :=
  match h : s.cache.enter forced with
  | (.held m, _) => (.ok m, s)
  | (.joined g, cache) => absurd h (s.cache.enter_ne_joined forced g cache)
  | (.started g, cache) =>
    let (outcome, link) := s.client.collect s.metadataLimit s.now s.link
    (outcome, { s with cache := cache.ended g outcome (Cache.phase_of_started h), link })

def act (s : Session σ) : Step → Reply × Session σ
  | .query request => match Batch.decode request with
    | .error e => (.rejected e, s)
    | .ok batch =>
      let (frames, link) := frames s.client batch.visible s.link
      (.frames frames, { s with link })
  | .health =>
    let (outcome, link) := s.client.testConnection s.link
    (.health (.ofTest outcome), { s with link })
  | .alive => (.alive, s)
  | .metadata forced =>
    let (outcome, s) := s.metadata forced
    (.metadata outcome, s)
  | .metadataPage query => match Refresh.ofQuery query with
    | .error e => (.metadataPage (.refused e), s)
    | .ok forced =>
      let (outcome, s) := s.metadata forced
      (.metadataPage (.ofOutcome outcome), s)
  | .objects l =>
    let (outcome, link) := s.client.list l s.link
    (.page outcome, { s with link })
  | .testConnection =>
    let (outcome, link) := s.client.testConnection s.link
    (.connection outcome, { s with link })
  | .collect limit =>
    let (outcome, link) := s.client.collect limit s.now s.link
    (.metadata outcome, { s with link })

def tick (s : Session σ) : Session σ := { s with time := s.time + 1 }

def step (s : Session σ) (step : Step) : Reply × Session σ :=
  ((s.act step).1, (s.act step).2.tick)

def run (s : Session σ) : List Step → List Reply × Session σ
  | [] => ([], s)
  | step :: steps =>
    let (reply, s) := s.step step
    let (replies, s) := run s steps
    (reply :: replies, s)

end Session

end SensorFrames
