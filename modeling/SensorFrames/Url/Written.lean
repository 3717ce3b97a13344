import SensorFrames.Url.Basic
import SensorFrames.Url.Path

/-!
Reading addresses. Six schemes are known: they have a host, and a backslash counts as a slash, and
files are read in a way of their own. Under other schemes what follows is an authority after two
slashes, a path after one, and else is not looked into up to the query.
-/

set_option autoImplicit false

namespace SensorFrames.Url

open Text

inductive Kind where
  | file
  | known
  | other
deriving DecidableEq, Inhabited, Repr

namespace Kind

/-- The known schemes with a host, and the numbers that go without saying. -/
def usualNumbers : List (List Char × Nat) :=
  [("http".toList, 80), ("https".toList, 443), ("ws".toList, 80), ("wss".toList, 443),
    ("ftp".toList, 21)]

def ofScheme (scheme : List Char) : Kind :=
  if scheme = "file".toList then file
  else if (usualNumbers.lookup scheme).isSome then known
  else other

def isSlash (kind : Kind) (c : Char) : Bool := c == '/' || (c == '\\' && kind != other)

def endsAuthority (kind : Kind) (c : Char) : Bool := kind.isSlash c || c == '?' || c == '#'

end Kind

def cleared (cs : List Char) : List Char :=
  let isMargin (c : Char) : Bool := decide (c.toNat ≤ 0x20)
  let inner := ((cs.dropWhile isMargin).reverse.dropWhile isMargin).reverse
  inner.filter fun c => c != '\t' && c != '\n' && c != '\r'

def isSchemeChar (c : Char) : Bool := c.isAlphanum || c == '+' || c == '-' || c == '.'

def readScheme : Reader (List Char) := fun cs =>
  let (scheme, rest) := run isSchemeChar cs
  if scheme.head?.any Char.isAlpha then (skipped ':' rest).map (scheme.map Char.toLower, ·)
  else none

/-- A user before the last `@`, with a password after the first colon. None when an `@` stands
alone. -/
def readUser (kind : Kind) : Reader (List Char × Option (List Char)) := fun cs =>
  let (front, rest) := run (!kind.endsAuthority ·) cs
  let host := (front.reverse.takeWhile (· != '@')).reverse
  if host.length = front.length then some (([], none), cs)
  else
    let user := front.take (front.length - host.length - 1)
    let (name, more) := run (· != ':') user
    let password := match more with
      | _ :: c :: word => some (Part.user.encoded (c :: word))
      | _ => none
    if user.isEmpty && host.isEmpty && !rest.isEmpty then none
    else some ((Part.user.encoded name, password), host ++ rest)

def hostFront (kind : Kind) (inBrackets : Bool) : List Char → List Char × List Char
  | [] => ([], [])
  | c :: rest =>
    if kind.endsAuthority c || (c == ':' && !inBrackets) then ([], c :: rest)
    else
      let (host, rest) := hostFront kind (if inBrackets then c != ']' else c == '[') rest
      (c :: host, rest)

/-- The number after a colon; none where it goes without saying. -/
def readNumber (usual : Option Nat) : Reader (Option Nat)
  | ':' :: rest =>
    let (digits, rest) := run isDigit rest
    let number := numeral 10 digits
    let isEnd := match rest with
      | [] => true
      | c :: _ => c == '/' || c == '\\' || c == '?' || c == '#'
    if !isEnd || UInt16.size ≤ number then none
    else some (if digits.isEmpty || usual == some number then none else some number, rest)
  | cs => some (none, cs)

/-- An authority after its two slashes. Only the host of an address whose scheme is not known may
be empty, and then nothing else of the authority is there. -/
def readAuthority (kind : Kind) (scheme : List Char) : Reader Authority := fun cs => do
  let ((username, password), rest) ← readUser kind cs
  let (front, rest) := hostFront kind false rest
  let host ← if kind = .other then Host.other? front
    else if front.isEmpty then none else Host.known? front
  if host.isEmpty && (rest.head? == some ':' || !username.isEmpty || password.isSome) then none
  else do
    let (number, rest) ← readNumber (Kind.usualNumbers.lookup scheme) rest
    some ({ username, password, host, number }, rest)

def readEnd (kind : Kind) (u : Url) (cs : List Char) : Url :=
  let (front, rest) := run (· != '#') cs
  let part := if kind = .other then Part.query else .knownQuery
  { u with
    query := match front with
      | [] => none
      | _ :: query => some (part.encoded query)
    fragment := match rest with
      | [] => none
      | _ :: fragment => some (Part.fragment.encoded fragment) }

def pathFront (cs : List Char) : List Char × List Char := run (fun c => c != '?' && c != '#') cs

def afterSlash (kind : Kind) : List Char → List Char
  | [] => []
  | c :: rest => if kind.isSlash c then rest else c :: rest

def pathOf (kind : Kind) (cs : List Char) : List Char :=
  Path.text (Path.resolved [] (Path.segments kind.isSlash (afterSlash kind cs)))

/-- Only under a scheme that is not known may a path be empty after an authority. -/
def ofAuthority? (kind : Kind) (scheme cs : List Char) : Option Url := do
  let (authority, rest) ← readAuthority kind scheme cs
  let (front, rest) := pathFront rest
  let path := if kind = .other ∧ front.isEmpty then [] else pathOf kind front
  some (readEnd kind { scheme, authority := some authority, path } rest)

/-- The host of a file after two slashes. A drive letter is none, and `localhost` is left out. -/
def readFileHost : Reader (List Char) := fun cs =>
  let (front, rest) := run (!Kind.file.endsAuthority ·) cs
  if Path.isDrive front then some ([], cs)
  else if front.isEmpty then some ([], rest)
  else (Host.known? front).map fun host => (if host = "localhost".toList then [] else host, rest)

/-- A drive letter in the path stands in place of a host. -/
def ofFile (host cs : List Char) : Url :=
  let (front, rest) := pathFront cs
  let segments := Path.segments Kind.file.isSlash (afterSlash .file front)
  let path := Path.fileText (Path.resolved [] (segments.map Path.withColon))
  let host := if segments.any Path.isDrive then [] else host
  readEnd .file { scheme := "file".toList, authority := some { host }, path } rest

def ofFile? (cs : List Char) : Option Url :=
  match cs with
  | a :: b :: rest =>
    if Kind.file.isSlash a ∧ Kind.file.isSlash b then
      (readFileHost rest).map fun (host, rest) => ofFile host rest
    else some (ofFile [] cs)
  | cs => some (ofFile [] cs)

def ofOther? (scheme : List Char) (cs : List Char) : Option Url :=
  match cs with
  | '/' :: '/' :: rest => ofAuthority? .other scheme rest
  | cs =>
    let (front, rest) := pathFront cs
    let path := if front.head? = some '/' then pathOf .other front else Part.plain.encoded front
    some (readEnd .other { scheme, path } rest)

def ofText? (s : String) : Option Url := do
  let (scheme, rest) ← readScheme (cleared s.toList)
  match Kind.ofScheme scheme with
  | .file => ofFile? rest
  | .known => ofAuthority? .known scheme (rest.dropWhile Kind.known.isSlash)
  | .other => ofOther? scheme rest

end SensorFrames.Url
