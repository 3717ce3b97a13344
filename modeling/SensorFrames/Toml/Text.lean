import SensorFrames.Text.Reader

/-!
The texts of TOML: comments, blanks, the four kinds of strings, and keys. Control characters other
than the tab stand nowhere, and a carriage return only before a line feed. Loops are bounded by the
length of the text, since each step takes a character.
-/

set_option autoImplicit false

namespace SensorFrames.Toml

open SensorFrames.Text (Reader hexDigitValue? run)

def isSpace (c : Char) : Bool := c == ' ' || c == '\t'

def skipSpace (cs : List Char) : List Char := cs.dropWhile isSpace

def isPlain (c : Char) : Bool :=
  c == '\t' || (decide (0x20 ≤ c.toNat) && c.toNat != 0x7F)

def skipNewline? : List Char → Option (List Char)
  | '\n' :: rest => some rest
  | '\r' :: '\n' :: rest => some rest
  | _ => none

def lineEnd (cs : List Char) : Option (List Char) :=
  let rest := match skipSpace cs with
    | '#' :: rest => rest.dropWhile isPlain
    | rest => rest
  if rest.isEmpty then some [] else skipNewline? rest

def skipLines : Nat → List Char → List Char
  | 0, cs => cs
  | bound + 1, cs =>
    match skipSpace cs with
    | '#' :: rest => match skipNewline? (rest.dropWhile isPlain) with
      | some rest => skipLines bound rest
      | none => '#' :: rest
    | rest => match skipNewline? rest with
      | some rest => skipLines bound rest
      | none => rest

def skipGap (cs : List Char) : List Char := skipLines cs.length cs

/-- The character of a number in hexadecimal digits, of which there have to be `width`. -/
def readCode (width : Nat) (cs : List Char) : Option (Char × List Char) := do
  let digits ← (cs.take width).mapM hexDigitValue?
  let code := digits.foldl (fun n d => 16 * n + d) 0
  if digits.length = width ∧ code.isValidChar then some (Char.ofNat code, cs.drop width) else none

def readEscape : Reader Char
  | 'b' :: rest => some (Char.ofNat 0x08, rest)
  | 't' :: rest => some ('\t', rest)
  | 'n' :: rest => some ('\n', rest)
  | 'f' :: rest => some (Char.ofNat 0x0C, rest)
  | 'r' :: rest => some ('\r', rest)
  | '"' :: rest => some ('"', rest)
  | '\\' :: rest => some ('\\', rest)
  | 'u' :: rest => readCode 4 rest
  | 'U' :: rest => readCode 8 rest
  | _ => none

def readLine (escapes : Bool) (quote : Char) : Nat → Reader (List Char)
  | 0, _ => none
  | _, [] => none
  | bound + 1, c :: rest =>
    if c = quote then some ([], rest)
    else if escapes ∧ c = '\\' then do
      let (c, rest) ← readEscape rest
      let (cs, rest) ← readLine escapes quote bound rest
      some (c :: cs, rest)
    else if isPlain c then do
      let (cs, rest) ← readLine escapes quote bound rest
      some (c :: cs, rest)
    else none

def skipSpaceLines : List Char → List Char
  | '\n' :: rest => skipSpaceLines rest
  | '\r' :: '\n' :: rest => skipSpaceLines rest
  | c :: rest => if isSpace c then skipSpaceLines rest else c :: rest
  | [] => []

def afterLineEnd? (cs : List Char) : Option (List Char) :=
  (skipNewline? (skipSpace cs)).map skipSpaceLines

/-- A string of several lines after its three quotes. Three quotes in a row close it, and before
them up to two more may stand as part of the text. -/
def readLines (escapes : Bool) (quote : Char) : Nat → Reader (List Char)
  | 0, _ => none
  | _, [] => none
  | bound + 1, c :: rest =>
    if c = quote then
      let quotes := (rest.takeWhile (· == quote)).length + 1
      if 3 ≤ quotes then
        let more := min 2 (quotes - 3)
        some (List.replicate more quote, rest.drop (more + 2))
      else do
        let (cs, rest) ← readLines escapes quote bound rest
        some (c :: cs, rest)
    else match skipNewline? (c :: rest) with
      | some rest => do
        let (cs, rest) ← readLines escapes quote bound rest
        some ('\n' :: cs, rest)
      | none =>
        if escapes ∧ c = '\\' then
          match afterLineEnd? rest with
          | some rest => readLines escapes quote bound rest
          | none => do
            let (c, rest) ← readEscape rest
            let (cs, rest) ← readLines escapes quote bound rest
            some (c :: cs, rest)
        else if isPlain c then do
          let (cs, rest) ← readLines escapes quote bound rest
          some (c :: cs, rest)
        else none

def readShort : Reader (List Char)
  | '"' :: rest => readLine true '"' rest.length rest
  | '\'' :: rest => readLine false '\'' rest.length rest
  | _ => none

/-- A line end right after the opening quotes is no part of the text. -/
def readLong (escapes : Bool) (quote : Char) (cs : List Char) : Option (List Char × List Char) :=
  let cs := (skipNewline? cs).getD cs
  readLines escapes quote cs.length cs

def readString : Reader String := fun cs =>
  let read := match cs with
    | '"' :: '"' :: '"' :: rest => readLong true '"' rest
    | '\'' :: '\'' :: '\'' :: rest => readLong false '\'' rest
    | cs => readShort cs
  read.map fun (s, rest) => (String.ofList s, rest)

def isKeyChar (c : Char) : Bool := c.isAlphanum || c == '-' || c == '_'

def readKeyPart : Reader String
  | [] => none
  | c :: rest =>
    if c = '"' ∨ c = '\'' then (readShort (c :: rest)).map fun (s, rest) => (String.ofList s, rest)
    else
      let (word, rest) := run isKeyChar (c :: rest)
      if word.isEmpty then none else some (String.ofList word, rest)

def readKeyParts : Nat → Reader (List String)
  | 0, _ => none
  | bound + 1, cs => do
    let (part, rest) ← readKeyPart (skipSpace cs)
    match skipSpace rest with
    | '.' :: rest => do
      let (parts, rest) ← readKeyParts bound rest
      some (part :: parts, rest)
    | rest => some ([part], rest)

def depthLimit : Nat := 80

def readKey (cs : List Char) : Option (List String × List Char) := do
  let (parts, rest) ← readKeyParts (cs.length + 1) cs
  if parts.length < depthLimit then some (parts, rest) else none

end SensorFrames.Toml
