import SensorFrames.Json.Basic
import SensorFrames.Text.Quoted

/-!
Decoding JSON values into typed ones. A record type is given by its slots, each with a name, a
reader and a writer: it is read from an object, member by member in the order of the keys, or from
an array that fills the slots in their order; a slot that nothing fills keeps its default. The
first failure counts.
-/

set_option autoImplicit false

namespace SensorFrames.Json

inductive Expectation where
  | string
  | boolean
  | sequence
  | word
  | unit
  | variant
  | singleKey
  | record (name : String)
deriving DecidableEq, Repr

inductive Found where
  | null
  | boolean (b : Bool)
  | integer (n : Int)
  | double (d : Double)
  | string (s : String)
  | sequence
  | map
deriving DecidableEq, Repr

inductive DecodeError where
  | invalidType (found : Found) (expected : Expectation)
  | invalidValue (found : Found) (expected : Expectation)
  | unknownVariant (given : String) (known : List String)
  | invalidLength (length : Nat)
deriving DecidableEq, Repr

def Expectation.text : Expectation → String
  | string => "a string"
  | boolean => "a boolean"
  | sequence => "a sequence"
  | word => "u64"
  | unit => "unit"
  | variant => "string or map"
  | singleKey => "map with a single key"
  | record name => "struct " ++ name

def ticked (s : String) : String := "`" ++ s ++ "`"

def Found.text : Found → String
  | null => "null"
  | boolean b => "boolean " ++ ticked (if b then "true" else "false")
  | integer n => "integer " ++ ticked (Number.integer n).text
  | double d => "floating point " ++ ticked d.text
  | string s => "string " ++ Text.quoted s
  | sequence => "sequence"
  | map => "map"

def choiceText : List String → String
  | [a] => ticked a
  | [a, b] => ticked a ++ " or " ++ ticked b
  | known => "one of " ++ String.intercalate ", " (known.map ticked)

def DecodeError.message : DecodeError → String
  | invalidType found expected => "invalid type: " ++ found.text ++ ", expected " ++ expected.text
  | invalidValue found expected =>
    "invalid value: " ++ found.text ++ ", expected " ++ expected.text
  | unknownVariant given known =>
    "unknown variant " ++ ticked given ++ ", expected " ++ choiceText known
  | invalidLength length =>
    "invalid length " ++ (Number.integer length).text ++ ", expected fewer elements in array"

def found : Json → Found
  | null => .null
  | bool b => .boolean b
  | num (.integer n) => .integer n
  | num (.double d) => .double d
  | str s => .string s
  | arr _ => .sequence
  | obj _ => .map

abbrev Decoder (α : Type) := Json → Except DecodeError α

def readString : Decoder String
  | str s => .ok s
  | j => .error (.invalidType j.found .string)

def readBool : Decoder Bool
  | bool b => .ok b
  | j => .error (.invalidType j.found .boolean)

def readWord : Decoder UInt64
  | num (.integer n) =>
    if 0 ≤ n ∧ n.toNat < UInt64.size then .ok (UInt64.ofNat n.toNat)
    else .error (.invalidValue (.integer n) .word)
  | j => .error (.invalidType j.found .word)

def readOption {α : Type} (read : Decoder α) : Decoder (Option α)
  | null => .ok none
  | j => (read j).map some

def readList {α : Type} (read : Decoder α) : Decoder (List α)
  | arr items => items.mapM read
  | j => .error (.invalidType j.found .sequence)

def lookupVariant {α : Type} (variants : List (String × α)) (name : String) :
    Except DecodeError α :=
  match variants.lookup name with
  | some a => .ok a
  | none => .error (.unknownVariant name (variants.map (·.1)))

/-- A variant is given by its name, or by an object that holds null under that name. -/
def readVariant {α : Type} (variants : List (String × α)) : Decoder α
  | str name => lookupVariant variants name
  | obj [(name, content)] => do
    let a ← lookupVariant variants name
    match content with
    | null => .ok a
    | content => .error (.invalidType content.found .unit)
  | obj _ => .error (.invalidValue .map .singleKey)
  | j => .error (.invalidType j.found .variant)

/-- One named part of the record type `σ`. -/
structure Slot (σ : Type) where
  name : String
  read : Json → σ → Except DecodeError σ
  write : σ → Json

namespace Slot

variable {σ : Type}

/-- Members that no slot is named for are passed over. -/
def readMembers (slots : List (Slot σ)) : Record → σ → Except DecodeError σ
  | [], x => .ok x
  | (key, value) :: rest, x =>
    match slots.find? (·.name == key) with
    | some slot => do readMembers slots rest (← slot.read value x)
    | none => readMembers slots rest x

/-- `length` is that of the whole array, for the message. -/
def readItems (length : Nat) : List (Slot σ) → List Json → σ → Except DecodeError σ
  | _, [], x => .ok x
  | [], _ :: _, _ => .error (.invalidLength length)
  | slot :: slots, item :: items, x => do readItems length slots items (← slot.read item x)

def decode (name : String) (slots : List (Slot σ)) (start : σ) : Decoder σ
  | obj r => readMembers slots r start
  | arr items => readItems items.length slots items start
  | j => .error (.invalidType j.found (.record name))

def object (slots : List (Slot σ)) (x : σ) : Json :=
  Json.object (slots.map fun slot => (slot.name, slot.write x))

def array (slots : List (Slot σ)) (x : σ) : Json := arr (slots.map (·.write x))

end Slot

end SensorFrames.Json
