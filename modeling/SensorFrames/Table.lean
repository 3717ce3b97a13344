import SensorFrames.Status
import SensorFrames.Timestamp.Detect

/-!
The table of a list of records: a field for each column and a row for each record. The requested
columns are shown, or else the keys of the first record. A cell of the column `status` is the
priority of the status. A column with a dot reaches one level into an object. Rows are added by
display name, so columns with one display name share the values of the last of them.
-/

set_option autoImplicit false

namespace SensorFrames.Table

def isWordChar (c : Char) : Bool := c.isAlphanum

/-- Underscores become spaces and words begin with a capital. `inWord` tells whether the character
before was one of a word. -/
def displayed (inWord : Bool) : List Char → List Char
  | [] => []
  | c :: rest =>
    let c := if c = '_' then ' ' else c
    let shown := if isWordChar c && !inWord then c.toUpper else c
    shown :: displayed (isWordChar c) rest

def displayName (column : String) : String := String.ofList (displayed false column.toList)

def splitAtDot (column : String) : Option (String × String) :=
  match column.toList.dropWhile (· != '.') with
  | [] => none
  | _ :: child =>
    some (String.ofList (column.toList.takeWhile (· != '.')), String.ofList child)

def lookup (r : Record) (column : String) : Json :=
  match splitAtDot column with
  | some (parent, child) => ((r.get? parent).bind (·.member? child)).getD .null
  | none => (r.get? column).getD .null

def statusColumn : String := "status"

def cell (r : Record) (column : String) : Json :=
  if column = statusColumn then .ofNat (Status.priorityOf (r.get? statusColumn))
  else lookup r column

def typeOf : Json → FieldType
  | .num _ => .number
  | .bool _ => .boolean
  | .str s => if Timestamp.looksLikeDate s then .time else .string
  | _ => .string

/-- The first record is the sample that a column has its type from. -/
def field (sample : Option Record) (column : String) : Field :=
  if column = statusColumn then
    { name := displayName column, type := .number, config := some Status.fieldConfig }
  else
    { name := displayName column, type := typeOf ((sample.map (lookup · column)).getD .null) }

def columns (records : List Record) (requested : List String) : List String :=
  match requested with
  | [] => match records with
    | [] => []
    | first :: _ => first.keys
  | _ => requested

def row (columns : List String) (r : Record) : Record :=
  .ofEntries (columns.map fun column => (displayName column, cell r column))

def frame (refId : String) (records : List Record) (requested : List String) : Frame :=
  let shown := columns records requested
  Frame.addAll (records.map (row shown)) ⟨refId, shown.map (field records.head?)⟩

end SensorFrames.Table
