import SensorFrames.Service.Listing
import SensorFrames.Text.Ordered

/-!
The values that filters can be made of: the groups, devices, tags and sensor types of the records,
each in rising order and once. The clock is read when the records have come, and that time stays
with the values.
-/

set_option autoImplicit false

namespace SensorFrames

/-- `fetchedAt` is in milliseconds since 1970. -/
structure Metadata where
  groups : List String
  devices : List String
  tags : List String
  sensorTypes : List String
  fetchedAt : Int64
deriving DecidableEq, Inhabited, Repr

namespace Metadata

def textOf (value : Json) : Option String :=
  match value with
  | .str s => if s = "" then none else some s
  | _ => none

def textsUnder (key : String) (r : Record) : List String :=
  ((r.get? key).bind textOf).toList

def tagsOf (r : Record) : List String :=
  match r.get? "tags" with
  | some (.arr items) => items.filterMap textOf
  | _ => []

def ofRecords (now : Int64) (records : List Record) : Metadata where
  groups := Text.ordered (records.flatMap (textsUnder "group"))
  devices := Text.ordered (records.flatMap (textsUnder "device"))
  tags := Text.ordered (records.flatMap tagsOf)
  sensorTypes := Text.ordered (records.flatMap (textsUnder "kind_name"))
  fetchedAt := now

def listing (limit : UInt64) : Listing where
  limit := some limit
  columns := some ["group", "device", "kind_name", "tags"]

def request (e : Endpoint) (limit : UInt64) : Request := (listing limit).request e

/-- The outcome of a collection, from the answer to its request and the time at which it came. -/
def outcome (limit : UInt64) (now : Int64) (answer : Except Failure Json) :
    Except Failure Metadata :=
  ((listing limit).outcome answer).map fun page => ofRecords now page.records

/-- How a time is written: as a number, or by a word that stands for any time. -/
inductive TimeForm where
  | millis
  | str (word : String)

def TimeForm.write (time : Int64) : TimeForm → Json
  | millis => .num (.integer time.toInt)
  | str word => .str word

def toJson (form : TimeForm) (m : Metadata) : Json :=
  .object
    [("groups", .strings m.groups), ("devices", .strings m.devices), ("tags", .strings m.tags),
      ("sensorTypes", .strings m.sensorTypes), ("fetchedAt", form.write m.fetchedAt)]

end Metadata

end SensorFrames
