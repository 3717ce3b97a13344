import SensorFrames.Service.Cache
import SensorFrames.Service.Refresh

/-!
The page that hands out metadata. A query that cannot be read is the asker's fault, a fetch that
fails is the server's behind it; both are told in words, with the status code that says whose.
-/

set_option autoImplicit false

namespace SensorFrames

inductive MetadataPage where
  | refused (e : Refresh.ParseError)
  | failed (f : Failure)
  | found (m : Metadata)
deriving DecidableEq, Repr

namespace MetadataPage

def ofOutcome : Outcome → MetadataPage
  | .ok m => found m
  | .error f => failed f

def statusCode : MetadataPage → Nat
  | refused _ => 400
  | failed _ => 502
  | found _ => 200

def body (form : Metadata.TimeForm) : MetadataPage → Json
  | refused e => .str ("Failed to deserialize query string: " ++ e.message)
  | failed f => .str ("metadata fetch failed: " ++ f.message)
  | found m => m.toJson form

end MetadataPage

end SensorFrames
