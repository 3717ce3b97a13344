import SensorFrames.Json.Value
import SensorFrames.Query.Format

/-!
Queries read straight from a JSON text. A part that is written twice is refused, where the value
of the text would keep the second; a member that names no part is passed over and only has to be
in the grammar.
-/

set_option autoImplicit false

namespace SensorFrames

open Json

def Json.Written.hasDistinctKeys : Written → Bool
  | .object members => (members.map (·.1)).eraseDups.length == members.length
  | _ => true

/-- The value of a part; an object in it may not repeat a key. -/
def Json.Written.part? (w : Written) : Option Json :=
  if w.hasDistinctKeys then ofWritten? nestingLimit w else none

def Json.Written.parts? (names : List String) (members : List (Option String × Written)) :
    Option (List (String × Written)) := do
  let named ← members.mapM fun m => m.1.map (·, m.2)
  let parts := named.filter (names.contains ·.1)
  if (parts.map (·.1)).eraseDups.length = parts.length then some parts else none

def Query.ofWritten? : Written → Option Query
  | .object members => do
    let parts ← Written.parts? (Query.slots.map (·.name)) members
    let values ← parts.mapM fun p => p.2.part?.map (p.1, ·)
    (Query.decode (.object values)).toOption
  | .array items => do
    (Query.decode (.arr (← items.mapM Written.part?))).toOption
  | _ => none

def Batch.ofTargets? : Written → Option Batch
  | .array items => (items.mapM Query.ofWritten?).map (⟨·⟩)
  | _ => none

def Batch.ofWritten? : Written → Option Batch
  | .object members => do
    match ← Written.parts? (Batch.slots.map (·.name)) members with
    | [] => some {}
    | (_, targets) :: _ => ofTargets? targets
  | .array [] => some {}
  | .array [targets] => ofTargets? targets
  | _ => none

def Batch.ofText? (s : String) : Option Batch := do
  ofWritten? (← Written.ofText? s)

end SensorFrames
