import SensorFrames.Json.Basic

/-!
A frame is a table by columns: fields that each have a name, a type and the values of the rows. A
row is added by name; a field that the row does not name gets null.
-/

set_option autoImplicit false

namespace SensorFrames

inductive FieldType where
  | number
  | boolean
  | time
  | string
deriving DecidableEq, Inhabited, Repr

def FieldType.name : FieldType → String
  | number => "number"
  | boolean => "boolean"
  | time => "time"
  | string => "string"

structure Display where
  text : String
  color : String
deriving DecidableEq, Inhabited, Repr

/-- Settings of a field that shows its values by a mapping, which is keyed by their decimal text. -/
structure FieldConfig where
  displayName : String
  displayMode : String
  mapping : List (String × Display)
deriving DecidableEq, Inhabited, Repr

structure Field where
  name : String
  type : FieldType
  config : Option FieldConfig := none
  values : List Json := []
deriving Inhabited

structure Frame where
  refId : String
  fields : List Field
deriving Inhabited

namespace Field

def append (row : Record) (f : Field) : Field :=
  { f with values := f.values ++ [(row.get? f.name).getD .null] }

end Field

namespace Frame

def add (row : Record) (f : Frame) : Frame :=
  { f with fields := f.fields.map (Field.append row) }

def addAll (rows : List Record) (f : Frame) : Frame := rows.foldl (fun f row => f.add row) f

def length (f : Frame) : Nat :=
  match f.fields with
  | [] => 0
  | first :: _ => first.values.length

def isEmpty (f : Frame) : Bool := f.length == 0

def field? (name : String) (f : Frame) : Option Field := f.fields.find? (·.name == name)

def ofMessage (refId message : String) : Frame :=
  add [("Error", .str message)] ⟨refId, [{ name := "Error", type := .string }]⟩

end Frame

namespace Display

def toJson (d : Display) : Json := .object [("text", .str d.text), ("color", .str d.color)]

end Display

namespace FieldConfig

def toJson (c : FieldConfig) : Json :=
  .object
    [("displayName", .str c.displayName),
      ("custom", .object [("displayMode", .str c.displayMode)]),
      ("mappings", .arr [.object
        [("type", .str "value"),
          ("options", .object (c.mapping.map fun m => (m.1, m.2.toJson)))]])]

end FieldConfig

namespace Field

def toJson (f : Field) : Json :=
  .object
    ([("name", .str f.name), ("type", .str f.type.name), ("values", .arr f.values)] ++
      f.config.toList.map fun c => ("config", c.toJson))

end Field

namespace Frame

def toJson (f : Frame) : Json :=
  .object [("refId", .str f.refId), ("fields", .arr (f.fields.map Field.toJson))]

end Frame

end SensorFrames
