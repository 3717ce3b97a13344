/-!
A query of a panel: which objects it asks for, how many, and which columns it shows. Explicit
columns come before those of a preset; with neither, the first record decides. A heatmap needs the
columns it counts by and no others; a table asks for each requested column once.
-/

set_option autoImplicit false

namespace SensorFrames

inductive ViewMode where
  | table
  | heatmap
deriving DecidableEq, Inhabited, Repr

/-- Named sets of columns. The custom preset names none. -/
inductive ColumnPreset where
  | essential
  | network
  | full
  | troubleshooting
  | custom
deriving DecidableEq, Inhabited, Repr

def ColumnPreset.columns : ColumnPreset → List String
  | essential => ["name", "status", "message", "parent.name", "lastup"]
  | network => ["name", "status", "host", "device", "group", "probe"]
  | full =>
    ["name", "status", "message", "parent.name", "lastup", "lastdown", "kind_name", "objid",
      "device", "group", "probe"]
  | troubleshooting =>
    ["name", "status", "message", "lastcheck", "lastup", "lastdown", "device", "group"]
  | custom => []

structure Query where
  refId : String := ""
  hide : Bool := false
  name : Option String := none
  viewMode : ViewMode := .table
  preset : Option ColumnPreset := none
  objectTypes : List String := []
  sensorTypes : List String := []
  groups : List String := []
  devices : List String := []
  tags : List String := []
  statuses : List String := []
  filter : Option String := none
  limit : Option UInt64 := none
  offset : Option UInt64 := none
  columns : Option (List String) := none
deriving DecidableEq, Inhabited, Repr

structure Batch where
  targets : List Query := []
deriving DecidableEq, Inhabited, Repr

/-- Each member once, at the place of its first occurrence. -/
def distinct {α : Type} [DecidableEq α] : List α → List α
  | [] => []
  | x :: xs => x :: (distinct xs).filter (· ≠ x)

namespace Query

def requestedColumns (q : Query) : List String :=
  match q.columns with
  | some (c :: cs) => c :: cs
  | _ => match q.preset with
    | some preset => preset.columns
    | none => []

def fetchColumns (q : Query) : Option (List String) :=
  match q.viewMode with
  | .heatmap => some ["group", "status"]
  | .table =>
    match q.requestedColumns with
    | [] => none
    | c :: cs => some (distinct (c :: cs))

end Query

end SensorFrames
