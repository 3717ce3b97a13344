import SensorFrames.Text.Form

/-!
The query string of a request for metadata: `refresh` may say `true` or `false`, once; other names
are passed over.
-/

set_option autoImplicit false

namespace SensorFrames.Refresh

open Text.Percent

inductive ParseError where
  | notBoolean
  | repeated
deriving DecidableEq, Inhabited, Repr

def ParseError.message : ParseError → String
  | notBoolean => "refresh: provided string was not `true` or `false`"
  | repeated => "duplicate field `refresh`"

def name : List UInt8 := utf8 "refresh"

def readFlag (value : List UInt8) : Except ParseError Bool :=
  if value = utf8 "true" then .ok true
  else if value = utf8 "false" then .ok false
  else .error .notBoolean

/-- Goes on from the flag that was found so far. -/
def readPairs : Option Bool → List (List UInt8 × List UInt8) → Except ParseError (Option Bool)
  | found, [] => .ok found
  | found, (key, value) :: rest =>
    if key = name then
      match found with
      | some _ => .error .repeated
      | none => do
        let flag ← readFlag value
        readPairs (some flag) rest
    else readPairs found rest

/-- Whether the value is to be fetched anew; when the query does not say so, it is not. -/
def ofQuery (query : String) : Except ParseError Bool :=
  (readPairs none (Text.Form.pairs query)).map (·.getD false)

end SensorFrames.Refresh
