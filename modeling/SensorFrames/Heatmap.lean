import SensorFrames.Status

/-!
The heatmap of a list of records: how many of them each group has in each status. The records are
counted one after another. Groups come in the order of their first record; of the counts of a group
those of the known statuses are taken first, by falling severity, and then what is left, by rising
priority. Counts of zero are left out.
-/

set_option autoImplicit false

namespace SensorFrames.Heatmap

structure Row where
  group : String
  priority : Nat
  count : Nat
deriving DecidableEq, Inhabited, Repr

def ungrouped : String := "Ungrouped"

/-- A string that is not empty, a number other than zero and `true` name a group. -/
def groupName : Option Json → String
  | some (.str s) => if s = "" then ungrouped else s
  | some (.num n) => if n.isZero then ungrouped else n.text
  | some (.bool true) => "true"
  | _ => ungrouped

def cell (r : Record) : String × Nat :=
  (groupName (r.get? "group"), Status.priorityOf (r.get? "status"))

/-- How many records of a group have each priority, by rising priority. -/
abbrev Counts := List (Nat × Nat)

namespace Counts

def add (p : Nat) : Counts → Counts
  | [] => [(p, 1)]
  | (q, n) :: rest =>
    if q = p then (q, n + 1) :: rest
    else if p < q then (p, 1) :: (q, n) :: rest
    else (q, n) :: add p rest

/-- The counts of the priorities, in the order of these, and the counts that are left. -/
def take : List Nat → Counts → Counts × Counts
  | [], counts => ([], counts)
  | p :: ps, counts =>
    let (taken, left) := take ps (counts.filter (·.1 ≠ p))
    match counts.lookup p with
    | some n => ((p, n) :: taken, left)
    | none => (taken, left)

/-- Known statuses come in the order of their definitions. -/
def drained (counts : Counts) : Counts :=
  let (known, left) := take (Status.definitions.map (·.priority)) counts
  (known ++ left).filter (0 < ·.2)

end Counts

/-- The counts of each group, in the order in which the groups were met. -/
abbrev Tally := List (String × Counts)

def Tally.add (c : String × Nat) : Tally → Tally
  | [] => [(c.1, Counts.add c.2 [])]
  | (g, counts) :: rest =>
    if g = c.1 then (g, Counts.add c.2 counts) :: rest else (g, counts) :: add c rest

def tally (records : List Record) : Tally := records.foldl (fun t r => t.add (cell r)) []

def rowsOf (group : String) (counts : Counts) : List Row :=
  (Counts.drained counts).map fun e => ⟨group, e.1, e.2⟩

def rows (records : List Record) : List Row := (tally records).flatMap fun e => rowsOf e.1 e.2

def Row.toRecord (r : Row) : Record :=
  .ofEntries [("Group", .str r.group), ("Status", .ofNat r.priority), ("Count", .ofNat r.count)]

def frame (refId : String) (rows : List Row) : Frame :=
  Frame.addAll (rows.map Row.toRecord)
    ⟨refId,
      [{ name := "Group", type := .string },
        { name := "Status", type := .number, config := some Status.fieldConfig },
        { name := "Count", type := .number }]⟩

def Row.toJson (r : Row) : Json :=
  .object
    [("group", .str r.group), ("statusPriority", .ofNat r.priority), ("count", .ofNat r.count)]

end SensorFrames.Heatmap
