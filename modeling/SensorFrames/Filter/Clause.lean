import SensorFrames.Filter.Literal
import SensorFrames.Query.Basic
import SensorFrames.Text.Blank

/-!
The filter of a query. Each dimension that names values gives a clause, which one of the values has
to satisfy; the clauses are joined by `AND` in a fixed order, with the query's own expression in
parentheses at the end. A filter without clauses is empty and matches all objects.
-/

set_option autoImplicit false

namespace SensorFrames.Filter

inductive Operator where
  | equals
  | contains
deriving DecidableEq, Inhabited, Repr

def Operator.text : Operator → String
  | equals => "="
  | contains => "contains"

/-- Some value of `values` stands in the relation to the field. -/
structure Clause where
  field : String
  operator : Operator
  values : List String
deriving DecidableEq, Inhabited, Repr

def quote (value : String) : String := String.ofList (literal value.toList)

def joined (separator : String) : List String → String
  | [] => ""
  | [s] => s
  | s :: t :: rest => s ++ separator ++ joined separator (t :: rest)

def parenthesised (s : String) : String := "(" ++ s ++ ")"

namespace Clause

def atom (c : Clause) (value : String) : String :=
  c.field ++ " " ++ c.operator.text ++ " " ++ quote value

def text (c : Clause) : String :=
  match c.values with
  | [] => ""
  | [value] => c.atom value
  | values => parenthesised (joined " OR " (values.map c.atom))

/-- The trimmed values that are not blank; none when all are. -/
def ofValues? (field : String) (operator : Operator) (values : List String) : Option Clause :=
  match (values.map Text.trim).filter (· ≠ "") with
  | [] => none
  | kept => some ⟨field, operator, kept⟩

end Clause

end SensorFrames.Filter

namespace SensorFrames

open SensorFrames.Filter

namespace Query

def clauses (q : Query) : List Clause :=
  [Clause.ofValues? "type" .equals q.objectTypes,
    Clause.ofValues? "status" .equals q.statuses,
    Clause.ofValues? "group" .equals q.groups,
    Clause.ofValues? "device" .equals q.devices,
    Clause.ofValues? "kind_name" .equals q.sensorTypes,
    Clause.ofValues? "tags" .contains q.tags].filterMap id

def expression? (q : Query) : Option String :=
  match q.filter with
  | none => none
  | some s => if Text.trim s = "" then none else some (Text.trim s)

def filterText (q : Query) : String :=
  joined " AND " (q.clauses.map Clause.text ++ q.expression?.toList.map parenthesised)

end Query

end SensorFrames
