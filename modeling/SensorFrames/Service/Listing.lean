import SensorFrames.Json.Printer
import SensorFrames.Query.Basic
import SensorFrames.Service.Endpoint
import SensorFrames.Service.Failure

/-!
Listings of objects: what one asks for, and the page of records that the body of an answer holds.
A body is an array, or an object with an array under `data`; of the items the objects count.
-/

set_option autoImplicit false

namespace SensorFrames

structure Listing where
  filter : Option String := none
  limit : Option UInt64 := none
  offset : Option UInt64 := none
  columns : Option (List String) := none
deriving DecidableEq, Inhabited, Repr

/-- `total` counts the records that came, not those that the server has. -/
structure Page where
  records : List Record
  total : Nat
  offset : UInt64
  limit : UInt64
deriving Inhabited

namespace Listing

def path : String := "experimental/objects"

def wordText (n : UInt64) : String := String.ofList (Nat.toDigits 10 n.toNat)

def parameters (l : Listing) : List (String × String) :=
  l.filter.toList.map (("filter", ·)) ++
    l.limit.toList.map (fun n => ("limit", wordText n)) ++
    l.offset.toList.map (fun n => ("offset", wordText n)) ++
    match l.columns with
    | some (c :: cs) => [("columns", Filter.joined "," (c :: cs))]
    | _ => []

def request (e : Endpoint) (l : Listing) : Request := e.request path l.parameters

inductive BodyFault where
  | noDataArray
  | noArray (body : Json)

def BodyFault.failure : BodyFault → Failure
  | noDataArray => .unexpectedBody "object without a data array"
  | noArray body => .unexpectedBody ("expected array, got " ++ body.text)

def items : Json → Except BodyFault (List Json)
  | .arr items => .ok items
  | .obj members => match Record.get? "data" members with
    | some (.arr items) => .ok items
    | _ => .error .noDataArray
  | body => .error (.noArray body)

def recordsOf (body : Json) : Except Failure (List Record) :=
  match items body with
  | .ok items => .ok (items.filterMap Json.record?)
  | .error fault => .error fault.failure

def page (l : Listing) (body : Json) : Except Failure Page :=
  (recordsOf body).map fun records =>
    ⟨records, records.length, l.offset.getD 0, l.limit.getD 0⟩

def outcome (l : Listing) (answer : Except Failure Json) : Except Failure Page :=
  answer.bind l.page

end Listing

namespace Page

def toJson (p : Page) : Json :=
  .object
    [("data", .arr (p.records.map .obj)), ("total", .ofNat p.total),
      ("offset", .ofNat p.offset.toNat), ("limit", .ofNat p.limit.toNat)]

end Page

namespace Query

def listing (q : Query) : Listing where
  filter := if q.filterText = "" then none else some q.filterText
  limit := q.limit
  offset := q.offset
  columns := q.fetchColumns

end Query

end SensorFrames
