/-!
Failures of the service that queries are sent to. Each kind has a text of its own, the detail, and
shows it behind a heading; a configuration failure shows it bare.
-/

set_option autoImplicit false

namespace SensorFrames

inductive Failure where
  | configuration (detail : String)
  | transport (detail : String)
  | unexpectedBody (detail : String)
  | connectionTest (detail : String)
deriving DecidableEq, Inhabited, Repr

namespace Failure

def detail : Failure → String
  | configuration s | transport s | unexpectedBody s | connectionTest s => s

def message : Failure → String
  | configuration s => s
  | transport s => "Failed to fetch data from PRTG API: " ++ s
  | unexpectedBody s => "unexpected response body: " ++ s
  | connectionTest s => "Connection test failed: " ++ s

end Failure

end SensorFrames
