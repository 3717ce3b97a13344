/-!
TOML documents as trees. Besides its entries a table has a standing, which tells how it came about
and with that who may add to it: a table that a header states takes entries under its header only,
one that a longer header implies may be stated later, one that a dotted key makes takes further
dotted keys, and an inline table is closed.
-/

set_option autoImplicit false

namespace SensorFrames.Toml

inductive Standing where
  | stated
  | implied
  | dotted
  | inline
deriving DecidableEq, Inhabited, Repr

/-- Of floats and datetimes nothing is kept but that they are there. -/
inductive Item where
  | string (s : String)
  | integer (n : Int)
  | float
  | boolean (b : Bool)
  | datetime
  | array (items : List Item)
  | table (standing : Standing) (entries : List (String × Item))
  | tables (list : List (List (String × Item)))
deriving Inhabited

abbrev Entries := List (String × Item)

namespace Entries

def replace (key : String) (item : Item) (t : Entries) : Entries :=
  t.map fun e => if e.1 = key then (key, item) else e

/-- Whether a path may go through a table: dotted keys go neither through stated tables nor through
inline ones, and headers not through inline ones. -/
def passes (dotted : Bool) : Standing → Bool
  | .stated => !dotted
  | .implied | .dotted => true
  | .inline => false

/-- Changes the table at the end of the path. Tables that are missing on the way are made, and of
an array of tables the way goes through the last. -/
def within (dotted : Bool) (change : Standing → Entries → Option Entries) :
    List String → Standing → Entries → Option Entries
  | [], standing, t => change standing t
  | key :: path, _, t =>
    match t.lookup key with
    | none => do
      let made := if dotted then Standing.dotted else .implied
      let sub ← within dotted change path made []
      some (t ++ [(key, .table made sub)])
    | some (.table standing sub) =>
      if passes dotted standing then do
        let sub ← within dotted change path standing sub
        some (replace key (.table standing sub) t)
      else none
    | some (.tables list) => do
      let last ← list.getLast?
      let last ← within dotted change path .stated last
      some (replace key (.tables (list.dropLast ++ [last])) t)
    | some _ => none

/-- Adds an entry. A key without dots goes into the table itself, one with dots into a table that
dotted keys made; in both cases it has to be new. -/
def add (path : List String) (item : Item) (standing : Standing) (t : Entries) :
    Option Entries := do
  let key ← path.getLast?
  let place := path.dropLast
  within true (fun standing t =>
    if (standing = .dotted ↔ place ≠ []) ∧ (t.lookup key).isNone then some (t ++ [(key, item)])
    else none) place standing t

def openTable (path : List String) (t : Entries) : Option Entries := do
  let key ← path.getLast?
  within false (fun _ t =>
    match t.lookup key with
    | none => some (t ++ [(key, .table .stated [])])
    | some (.table .implied sub) => some (replace key (.table .stated sub) t)
    | some _ => none) path.dropLast .stated t

def openTables (path : List String) (t : Entries) : Option Entries := do
  let key ← path.getLast?
  within false (fun _ t =>
    match t.lookup key with
    | none => some (t ++ [(key, .tables [[]])])
    | some (.tables list) => some (replace key (.tables (list ++ [[]])) t)
    | some _ => none) path.dropLast .stated t

def addUnder (header path : List String) (item : Item) (t : Entries) : Option Entries :=
  within false (fun standing t => add path item standing t) header .stated t

end Entries

end SensorFrames.Toml
