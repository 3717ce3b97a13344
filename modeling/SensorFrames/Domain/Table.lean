import SensorFrames.Text.Reader

/-!
Tables of code points, kept as texts. A table is a row of words with blanks between; a word names
one code point, or the first and the last of a span, in hexadecimal digits.
-/

set_option autoImplicit false

namespace SensorFrames.Domain

open Text

def words (table : String) : List (List Char) :=
  (pieces ' ' (table.toList.map fun c => if c = '\n' then ' ' else c)).filter (!·.isEmpty)

def number (digits : List Char) : Nat := numeral 16 digits

structure Span where
  first : Nat
  last : Nat
deriving DecidableEq, Inhabited, Repr

namespace Span

def ofWord (word : List Char) : Span :=
  match pieces '-' word with
  | [first, last] => ⟨number first, number last⟩
  | _ => ⟨number word, number word⟩

def contains (s : Span) (c : Char) : Bool :=
  decide (s.first ≤ c.toNat) && decide (c.toNat ≤ s.last)

end Span

def spans (table : String) : List Span := (words table).map Span.ofWord

def covers (table : List Span) (c : Char) : Bool := table.any (·.contains c)

def sides (word : List Char) : List Char × List Char :=
  (word.takeWhile (· != '='), (word.dropWhile (· != '=')).drop 1)

end SensorFrames.Domain
