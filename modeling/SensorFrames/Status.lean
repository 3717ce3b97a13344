import SensorFrames.Frame
import SensorFrames.Text.Blank
import SensorFrames.Text.Lowercase

/-!
Status labels and their severity. A label is known by its trimmed lower-case text; each known status
has a priority from 1, the most severe, to 14, and every other label has priority 98. Frames hold
the priority, and a mapping shows it as a label with a colour.
-/

set_option autoImplicit false

namespace SensorFrames.Status

structure Definition where
  keys : List String
  label : String
  priority : Nat
  color : String
deriving DecidableEq, Inhabited, Repr

def definitions : List Definition :=
  [⟨["down"], "Down", 1, "#e02f44"⟩,
    ⟨["down (acknowledged)", "down (ack)"], "Down (Acknowledged)", 2, "#ff941f"⟩,
    ⟨["down (partial)"], "Down (Partial)", 3, "#f2cc0c"⟩,
    ⟨["warning"], "Warning", 4, "#f2c96d"⟩,
    ⟨["unusual"], "Unusual", 5, "#ffcb7d"⟩,
    ⟨["paused"], "Paused", 6, "#a8a8a8"⟩,
    ⟨["paused (by user)"], "Paused (by User)", 7, "#c8c8c8"⟩,
    ⟨["paused (by dependency)"], "Paused (by Dependency)", 8, "#c8c8c8"⟩,
    ⟨["paused (because of license)"], "Paused (License)", 9, "#c8c8c8"⟩,
    ⟨["paused (until)"], "Paused (Until)", 10, "#c8c8c8"⟩,
    ⟨["collecting"], "Collecting", 11, "#5794f2"⟩,
    ⟨["no monitoring"], "No Monitoring", 12, "#b877d9"⟩,
    ⟨["up"], "Up", 13, "#56a64b"⟩,
    ⟨["unknown"], "Unknown", 14, "#888888"⟩]

def unlistedPriority : Nat := 98

def unlistedColor : String := "#888888"

/-- What stands for an empty label. -/
def absentDefinition : Definition := ⟨["unknown"], "Unknown", unlistedPriority, unlistedColor⟩

inductive Verdict where
  | listed (d : Definition)
  | absent
  | unlisted (raw : String)
deriving DecidableEq, Inhabited, Repr

/-- A label that is not listed keeps its own text. -/
def Verdict.definition : Verdict → Definition
  | listed d => d
  | absent => absentDefinition
  | unlisted raw => ⟨[], raw, unlistedPriority, unlistedColor⟩

def Verdict.isKnown : Verdict → Bool
  | unlisted _ => false
  | _ => true

def find? (key : String) : Option Definition := definitions.find? (·.keys.contains key)

def classify (raw : String) : Verdict :=
  if raw = "" then .absent
  else match find? (Text.lowercase (Text.trim raw)) with
    | some d => .listed d
    | none => .unlisted raw

def priority (raw : String) : Nat := (classify raw).definition.priority

def priorityOf (cell : Option Json) : Nat := priority ((cell.bind Json.string?).getD "")

def mappingKey (priority : Nat) : String := String.ofList (Nat.toDigits 10 priority)

def fieldConfig : FieldConfig where
  displayName := "Status"
  displayMode := "color-text"
  mapping :=
    definitions.map (fun d => (mappingKey d.priority, ⟨d.label, d.color⟩)) ++
      [(mappingKey unlistedPriority, ⟨"Unknown", unlistedColor⟩)]

end SensorFrames.Status
