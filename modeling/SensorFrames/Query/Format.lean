import SensorFrames.Json.Decode
import SensorFrames.Query.Basic

/-!
The JSON form of queries: an object with a member for each part, or an array of the parts in their
order. Parts that are left out have their defaults. A variant is written by its name, an absent
part as null and a number as an integer.
-/

set_option autoImplicit false

namespace SensorFrames

open Json

namespace ViewMode

def name : ViewMode → String
  | table => "table"
  | heatmap => "heatmap"

def variants : List (String × ViewMode) := [table, heatmap].map fun v => (v.name, v)

end ViewMode

namespace ColumnPreset

def name : ColumnPreset → String
  | essential => "essential"
  | network => "network"
  | full => "full"
  | troubleshooting => "troubleshooting"
  | custom => "custom"

def variants : List (String × ColumnPreset) :=
  [essential, network, full, troubleshooting, custom].map fun p => (p.name, p)

end ColumnPreset

def Json.ofWord (n : UInt64) : Json := .ofNat n.toNat

namespace Query

def stringSlot (name : String) (get : Query → String) (set : Query → String → Query) :
    Slot Query :=
  ⟨name, fun j q => (readString j).map (set q), fun q => .str (get q)⟩

def optionSlot {α : Type} (name : String) (read : Decoder α) (write : α → Json)
    (get : Query → Option α) (set : Query → Option α → Query) : Slot Query :=
  ⟨name, fun j q => (readOption read j).map (set q), fun q => .ofOption write (get q)⟩

def listSlot (name : String) (get : Query → List String) (set : Query → List String → Query) :
    Slot Query :=
  ⟨name, fun j q => (readList readString j).map (set q), fun q => .strings (get q)⟩

def slots : List (Slot Query) :=
  [stringSlot "refId" (·.refId) (fun q x => { q with refId := x }),
    ⟨"hide", fun j q => (readBool j).map fun x => { q with hide := x }, fun q => .bool q.hide⟩,
    optionSlot "queryName" readString .str (·.name) (fun q x => { q with name := x }),
    ⟨"viewMode", fun j q => (readVariant ViewMode.variants j).map fun x => { q with viewMode := x },
      fun q => .str q.viewMode.name⟩,
    optionSlot "columnPreset" (readVariant ColumnPreset.variants) (fun p => .str p.name) (·.preset)
      (fun q x => { q with preset := x }),
    listSlot "objectTypes" (·.objectTypes) (fun q x => { q with objectTypes := x }),
    listSlot "sensorTypes" (·.sensorTypes) (fun q x => { q with sensorTypes := x }),
    listSlot "groups" (·.groups) (fun q x => { q with groups := x }),
    listSlot "devices" (·.devices) (fun q x => { q with devices := x }),
    listSlot "tags" (·.tags) (fun q x => { q with tags := x }),
    listSlot "statuses" (·.statuses) (fun q x => { q with statuses := x }),
    optionSlot "filter" readString .str (·.filter) (fun q x => { q with filter := x }),
    optionSlot "limit" readWord .ofWord (·.limit) (fun q x => { q with limit := x }),
    optionSlot "offset" readWord .ofWord (·.offset) (fun q x => { q with offset := x }),
    optionSlot "columns" (readList readString) .strings (·.columns)
      (fun q x => { q with columns := x })]

def decode : Decoder Query := Slot.decode "StructuredQuery" slots {}

def toJson (q : Query) : Json := Slot.object slots q

def toArray (q : Query) : Json := Slot.array slots q

end Query

namespace Batch

def slots : List (Slot Batch) :=
  [⟨"targets", fun j _ => (readList Query.decode j).map fun x => ⟨x⟩,
    fun b => .arr (b.targets.map Query.toJson)⟩]

def decode : Decoder Batch := Slot.decode "QueryRequest" slots {}

def toJson (b : Batch) : Json := Slot.object slots b

end Batch

end SensorFrames
