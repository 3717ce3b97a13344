/-!
Literals of the filter language: a text between single quotes, in which a backslash makes the next
character stand for itself.
-/

set_option autoImplicit false

namespace SensorFrames.Filter

def escapeChar (c : Char) : List Char :=
  if c = '\\' ∨ c = '\'' then ['\\', c] else [c]

def literal (value : List Char) : List Char := '\'' :: value.flatMap escapeChar ++ ['\'']

/-- A literal after its opening quote: its text, up to the first quote that is not escaped, and
what follows. -/
def scanBody : List Char → Option (List Char × List Char)
  | [] => none
  | '\'' :: rest => some ([], rest)
  | '\\' :: c :: rest => (scanBody rest).map fun r => (c :: r.1, r.2)
  | c :: rest => (scanBody rest).map fun r => (c :: r.1, r.2)

def scanLiteral : List Char → Option (List Char × List Char)
  | '\'' :: rest => scanBody rest
  | _ => none

end SensorFrames.Filter
