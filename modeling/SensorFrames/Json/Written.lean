import SensorFrames.Text.Reader

/-!
JSON as it stands in a text: members in their order, a key as often as it is written, numbers by
their figures. Reading checks the grammar and nothing else; what a text means is left to those
who use it. A string that holds half of a surrogate pair is in the grammar but is no text.
-/

set_option autoImplicit false

namespace SensorFrames.Json

open Text

/-- The figures of a number: `mantissa * 10 ^ scale`. It is `whole` when neither a point nor an
exponent is written. -/
structure Figures where
  negative : Bool
  mantissa : Nat
  scale : Int
  whole : Bool
deriving DecidableEq, Repr

inductive Written where
  | null
  | bool (b : Bool)
  | number (f : Figures)
  | string (s : Option String)
  | array (items : List Written)
  | object (members : List (Option String × Written))
deriving Inhabited

def isGap (c : Char) : Bool := c == ' ' || c == '\t' || c == '\n' || c == '\r'

def skipGap (cs : List Char) : List Char := cs.dropWhile isGap

/-- The numbers of the characters and escapes up to the closing quote; an escape of the form
`\uXXXX` counts as one number, which may be half of a surrogate pair. -/
def readCodes : Reader (List Nat)
  | [] => none
  | '"' :: rest => some ([], rest)
  | '\\' :: 'u' :: a :: b :: c :: d :: rest => do
    let a ← hexDigitValue? a
    let b ← hexDigitValue? b
    let c ← hexDigitValue? c
    let d ← hexDigitValue? d
    let (codes, rest) ← readCodes rest
    some ((a * 0x1000 + b * 0x100 + c * 0x10 + d) :: codes, rest)
  | '\\' :: e :: rest => do
    let code ← match e with
      | '"' => some 0x22
      | '\\' => some 0x5C
      | '/' => some 0x2F
      | 'b' => some 0x08
      | 'f' => some 0x0C
      | 'n' => some 0x0A
      | 'r' => some 0x0D
      | 't' => some 0x09
      | _ => none
    let (codes, rest) ← readCodes rest
    some (code :: codes, rest)
  | c :: rest =>
    if c.toNat < 0x20 ∨ c = '\\' then none
    else do
      let (codes, rest) ← readCodes rest
      some (c.toNat :: codes, rest)

def isHighHalf (n : Nat) : Bool := decide (0xD800 ≤ n) && decide (n < 0xDC00)

def isLowHalf (n : Nat) : Bool := decide (0xDC00 ≤ n) && decide (n < 0xE000)

/-- Halves of surrogate pairs are joined; none when one is left over. -/
def joinHalves : List Nat → Option (List Char)
  | [] => some []
  | high :: low :: rest =>
    if isHighHalf high then
      if isLowHalf low then
        (joinHalves rest).map
          (Char.ofNat (0x10000 + (high - 0xD800) * 0x400 + (low - 0xDC00)) :: ·)
      else none
    else if isLowHalf high then none
    else (joinHalves (low :: rest)).map (Char.ofNat high :: ·)
  | n :: rest =>
    if isHighHalf n || isLowHalf n then none else (joinHalves rest).map (Char.ofNat n :: ·)

def readQuoted : Reader (Option String) := fun cs => do
  let (codes, rest) ← readCodes cs
  some ((joinHalves codes).map String.ofList, rest)

def readFraction : Reader (List Char)
  | '.' :: rest =>
    let (digits, rest) := run isDigit rest
    if digits.isEmpty then none else some (digits, rest)
  | cs => some ([], cs)

def readExponent : Reader (Option Int)
  | c :: rest =>
    if c = 'e' ∨ c = 'E' then
      let (negative, rest) := match rest with
        | '-' :: rest => (true, rest)
        | '+' :: rest => (false, rest)
        | rest => (false, rest)
      let (digits, rest) := run isDigit rest
      if digits.isEmpty then none
      else
        let size : Int := numeral 10 digits
        some (some (if negative then -size else size), rest)
    else some (none, c :: rest)
  | [] => some (none, [])

def readFigures (cs : List Char) : Option (Figures × List Char) := do
  let (negative, cs) := match cs with
    | '-' :: rest => (true, rest)
    | cs => (false, cs)
  let (digits, rest) := run isDigit cs
  let (leading, rest) ← match digits with
    | [] => none
    | '0' :: [] => some (digits, rest)
    | '0' :: _ => none
    | _ => some (digits, rest)
  let (fraction, rest) ← readFraction rest
  let (exponent, rest) ← readExponent rest
  some ({ negative
          mantissa := numeral 10 (leading ++ fraction)
          scale := exponent.getD 0 - fraction.length
          whole := fraction.isEmpty && exponent.isNone }, rest)

def readMember (value : Reader Written) : Reader (Option String × Written)
  | '"' :: rest => do
    let (key, rest) ← readQuoted rest
    let rest ← skipped ':' (skipGap rest)
    let (v, rest) ← value (skipGap rest)
    some ((key, v), rest)
  | _ => none

/-- A value at the front of a text of at most `bound` characters, so that neither nesting nor the
number of items goes beyond it. -/
def readWritten : Nat → Reader Written
  | bound, cs =>
    match cs with
    | 'n' :: rest => (afterWord ['u', 'l', 'l'] rest).map (.null, ·)
    | 't' :: rest => (afterWord ['r', 'u', 'e'] rest).map (.bool true, ·)
    | 'f' :: rest => (afterWord ['a', 'l', 's', 'e'] rest).map (.bool false, ·)
    | '"' :: rest => do
      let (s, rest) ← readQuoted rest
      some (.string s, rest)
    | '[' :: rest => match bound with
      | 0 => none
      | bound + 1 => match skipGap rest with
        | ']' :: rest => some (.array [], rest)
        | rest => do
          let (items, rest) ← readItems skipGap (readWritten bound) ']' bound rest
          some (.array items, rest)
    | '{' :: rest => match bound with
      | 0 => none
      | bound + 1 => match skipGap rest with
        | '}' :: rest => some (.object [], rest)
        | rest => do
          let (members, rest) ← readItems skipGap (readMember (readWritten bound)) '}' bound rest
          some (.object members, rest)
    | cs => do
      let (f, rest) ← readFigures cs
      some (.number f, rest)

def Written.ofText? (s : String) : Option Written := do
  let cs := s.toList
  let (w, rest) ← readWritten cs.length (skipGap cs)
  if (skipGap rest).isEmpty then some w else none

end SensorFrames.Json
