import SensorFrames.Toml.Scalar
import SensorFrames.Toml.Text

/-!
TOML documents: lines that are blank, open a table or an array of tables, or add an entry to the
table that is open. Arrays may stretch over lines and end in a comma, inline tables neither.
-/

set_option autoImplicit false

namespace SensorFrames.Toml

open SensorFrames.Text (Reader afterWord skipped)

def readArray (item : Reader Item) : Nat → Reader (List Item)
  | 0, _ => none
  | bound + 1, cs =>
    match skipGap cs with
    | ']' :: rest => some ([], rest)
    | cs => do
      let (x, rest) ← item cs
      match skipGap rest with
      | ']' :: rest => some ([x], rest)
      | ',' :: rest => do
        let (xs, rest) ← readArray item bound rest
        some (x :: xs, rest)
      | _ => none

def readEntry (item : Reader Item) : Reader (List String × Item) := fun cs => do
  let (path, rest) ← readKey cs
  let rest ← skipped '=' rest
  let (x, rest) ← item (skipSpace rest)
  some ((path, x), rest)

def readEntries (item : Reader Item) : Nat → Reader (List (List String × Item))
  | 0, _ => none
  | bound + 1, cs => do
    let (entry, rest) ← readEntry item cs
    match skipSpace rest with
    | '}' :: rest => some ([entry], rest)
    | ',' :: rest => do
      let (entries, rest) ← readEntries item bound rest
      some (entry :: entries, rest)
    | _ => none

def inlineTable? (entries : List (List String × Item)) : Option Item :=
  (entries.foldlM (fun t (e : List String × Item) => Entries.add e.1 e.2 .inline t) []).map
    (.table .inline)

/-- A value that nests at most `depth` arrays and inline tables. -/
def readItem : Nat → Reader Item
  | depth, cs =>
    match cs with
    | [] => none
    | '[' :: rest => match depth with
      | 0 => none
      | depth + 1 => (readArray (readItem depth) (rest.length + 1) rest).map fun (items, rest) =>
        (.array items, rest)
    | '{' :: rest => match depth with
      | 0 => none
      | depth + 1 => match skipSpace rest with
        | '}' :: rest => some (.table .inline [], rest)
        | rest => do
          let (entries, rest) ← readEntries (readItem depth) rest.length rest
          let table ← inlineTable? entries
          some (table, rest)
    | 't' :: rest => (afterWord ['r', 'u', 'e'] rest).map (.boolean true, ·)
    | 'f' :: rest => (afterWord ['a', 'l', 's', 'e'] rest).map (.boolean false, ·)
    | c :: rest =>
      if c = '"' ∨ c = '\'' then (readString (c :: rest)).map fun (s, rest) => (.string s, rest)
      else readNumeric (c :: rest)

/-- The tables so far and the header of the one that is open. -/
structure Document where
  root : Entries := []
  header : List String := []
deriving Inhabited

namespace Document

def readHeader (close : List Char) (cs : List Char) : Option (List String × List Char) := do
  let (path, rest) ← readKey cs
  let rest ← afterWord close rest
  some (path, ← lineEnd rest)

def readLine (d : Document) (cs : List Char) : Option (Document × List Char) :=
  match cs with
  | '#' :: _ => (lineEnd cs).map (d, ·)
  | '[' :: '[' :: rest => do
    let (path, rest) ← readHeader [']', ']'] rest
    some (⟨← Entries.openTables path d.root, path⟩, rest)
  | '[' :: rest => do
    let (path, rest) ← readHeader [']'] rest
    some (⟨← Entries.openTable path d.root, path⟩, rest)
  | cs => do
    let ((path, item), rest) ← readEntry (readItem (depthLimit - 1)) cs
    let root ← Entries.addUnder d.header path item d.root
    some ({ d with root }, ← lineEnd rest)

def readAll : Nat → Document → List Char → Option Document
  | 0, _, _ => none
  | bound + 1, d, cs =>
    match skipSpace cs with
    | [] => some d
    | cs => match skipNewline? cs with
      | some rest => readAll bound d rest
      | none => do
        let (d, rest) ← d.readLine cs
        readAll bound d rest

def ofText? (s : String) : Option Entries :=
  let cs := match s.toList with
    | [] => []
    | c :: rest => if c.toNat = 0xFEFF then rest else c :: rest
  (readAll (cs.length + 1) {} cs).map (·.root)

end Document

end SensorFrames.Toml
