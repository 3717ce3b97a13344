import SensorFrames.Settings.Basic
import SensorFrames.Toml.Document

/-!
Settings as a file has them: a TOML document with a table for the server that is asked and one for
the service itself. Entries that are left out have their defaults, and others are passed over. A
table may also be given as an array of its first values.
-/

set_option autoImplicit false

namespace SensorFrames.Settings

open Toml

abbrev Reading := Item → Settings → Option Settings

def readString (set : Settings → String → Settings) : Reading
  | .string x, s => some (set s x)
  | _, _ => none

def readBool (set : Settings → Bool → Settings) : Reading
  | .boolean x, s => some (set s x)
  | _, _ => none

def readInteger (bound : Nat) (set : Settings → Nat → Settings) : Reading
  | .integer (.ofNat n), s => if n < bound then some (set s n) else none
  | _, _ => none

def serverReadings : List (String × Reading) :=
  [("url", readString fun s x => { s with url := x }),
    ("port", readInteger UInt16.size fun s x => { s with portNumber := UInt16.ofNat x }),
    ("api_key", readString fun s x => { s with key := x }),
    ("allow_insecure", readBool fun s x => { s with allowInsecure := x }),
    ("metadata_limit",
      readInteger UInt64.size fun s x => { s with metadataLimit := UInt64.ofNat x })]

def serviceReadings : List (String × Reading) :=
  [("listen_addr", readString fun s x => { s with listenAddress := x })]

def readEntries (readings : List (String × Reading)) (t : Entries) (s : Settings) :
    Option Settings :=
  t.foldlM (fun s e => match readings.lookup e.1 with
    | some reading => reading e.2 s
    | none => some s) s

/-- Values beyond the last reading are passed over. -/
def readValues : List (String × Reading) → List Item → Settings → Option Settings
  | (_, reading) :: readings, item :: items, s => do
    readValues readings items (← reading item s)
  | _, _, s => some s

/-- A datetime counts as a table of other entries. -/
def readTable (readings : List (String × Reading)) : Reading
  | .table _ t, s => readEntries readings t s
  | .array items, s => readValues readings items s
  | .tables list, s => readValues readings (list.map (.table .stated)) s
  | .datetime, s => some s
  | _, _ => none

def documentReadings : List (String × Reading) :=
  [("prtg", readTable serverReadings), ("server", readTable serviceReadings)]

def ofToml? (t : Entries) : Option Settings := readEntries documentReadings t {}

inductive LoadError where
  | notText
  | notSettings
deriving DecidableEq, Inhabited, Repr

def ofText (s : String) : Except LoadError Settings :=
  match (Document.ofText? s).bind ofToml? with
  | some settings => .ok settings
  | none => .error .notSettings

/-- The settings of a file, or the defaults where there is no file. -/
def load (file : Option ByteArray) : Except LoadError Settings :=
  match file with
  | none => .ok {}
  | some bytes => match String.fromUTF8? bytes with
    | some s => ofText s
    | none => .error .notText

end SensorFrames.Settings
