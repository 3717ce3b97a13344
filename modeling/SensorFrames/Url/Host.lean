import SensorFrames.Domain.Name
import SensorFrames.Number.Power
import SensorFrames.Url.Encoding

/-!
Hosts of an address. Under a known scheme a host is an IPv6 address in brackets or a domain name; a
name whose last part is a number has to be an IPv4 address, which is written with four bytes. Under
other schemes a host in no brackets is kept as it is.
-/

set_option autoImplicit false

namespace SensorFrames.Url.Host

open Text

def decimal (n : Nat) : List Char := Nat.toDigits 10 n

/-! ### IPv4 -/

/-- A part of a name that is a number: hexadecimal after `0x`, octal after another `0`. -/
def number? (part : List Char) : Option Nat :=
  let (base, digits) := match part with
    | '0' :: 'x' :: rest | '0' :: 'X' :: rest => (16, rest)
    | '0' :: c :: rest => (8, c :: rest)
    | part => (10, part)
  if part ≠ [] ∧ digits.all (isDigitOf base) then some (numeral base digits) else none

def parts (name : List Char) : List (List Char) :=
  let all := pieces '.' name
  if all.length > 1 ∧ all.getLast? = some [] then all.dropLast else all

def endsInNumber (parts : List (List Char)) : Bool :=
  match parts.getLast? with
  | none => false
  | some part => (!part.isEmpty && part.all isDigit) || (number? part).isSome

def bytes : Nat → Nat → List Nat
  | 0, _ => []
  | count + 1, n => bytes count (n / 256) ++ [n % 256]

/-- At most four numbers: the last fills the bytes that are left, the others one byte each. -/
def ipv4? (parts : List (List Char)) : Option (List Nat) := do
  let numbers ← parts.mapM number?
  let last ← numbers.getLast?
  let others := numbers.dropLast
  let left := 4 - others.length
  if others.length ≤ 3 ∧ others.all (· < 256) ∧ last < twoTo (8 * left) then
    some (others ++ bytes left last)
  else none

def dotted (bytes : List Nat) : List Char := ['.'].intercalate (bytes.map decimal)

/-! ### IPv6 -/

/-- Four decimal numbers, each of one byte and without leading zeros, as two groups. -/
def groupsOfDotted? (cs : List Char) : Option (List Nat) :=
  let numbers := pieces '.' cs
  if numbers.all fun digits => !digits.isEmpty && digits.all isDigit &&
      decide (numeral 10 digits < 256) && (digits.length == 1 || digits.head? != some '0') then
    match numbers.map (numeral 10) with
    | [a, b, c, d] => some [256 * a + b, 256 * c + d]
    | _ => none
  else none

def isGroup (cs : List Char) : Bool :=
  decide (1 ≤ cs.length) && decide (cs.length ≤ 4) && cs.all (isDigitOf 16)

/-- The groups that the parts between colons make up; a dotted part may stand at the end of the
address. -/
def groups? (isEnd : Bool) : List (List Char) → Option (List Nat)
  | [] => some []
  | [part] =>
    if isGroup part then some [numeral 16 part]
    else if isEnd then groupsOfDotted? part else none
  | part :: rest =>
    if isGroup part then (groups? isEnd rest).map (numeral 16 part :: ·) else none

def atDoubleColon? : List Char → Option (List Char × List Char)
  | [] => none
  | ':' :: ':' :: rest => some ([], rest)
  | c :: rest => (atDoubleColon? rest).map fun r => (c :: r.1, r.2)

def colonParts (cs : List Char) : List (List Char) := if cs.isEmpty then [] else pieces ':' cs

def groupCount : Nat := 8

/-- Eight groups, or fewer with a double colon for those that are zero. -/
def ipv6? (cs : List Char) : Option (List Nat) :=
  match atDoubleColon? cs with
  | none => (groups? true (colonParts cs)).filter (·.length == groupCount)
  | some (before, after) => do
    let before ← groups? false (colonParts before)
    let after ← groups? true (colonParts after)
    let zeros := groupCount - before.length - after.length
    if zeros = 0 then none else some (before ++ List.replicate zeros 0 ++ after)

def groupsText (groups : List Nat) : List Char :=
  [':'].intercalate (groups.map (Nat.toDigits 16))

def leadingZeros (groups : List Nat) : Nat := (groups.takeWhile (· == 0)).length

/-- The first of the longest rows of at least two zeros is left out. -/
def ipv6Text (groups : List Nat) : List Char :=
  let rows := (List.range groupCount).map fun i => leadingZeros (groups.drop i)
  let longest := rows.foldl (fun m n => if m < n then n else m) 0
  if longest < 2 then groupsText groups
  else
    let start := rows.findIdx (· == longest)
    groupsText (groups.take start) ++ [':', ':'] ++ groupsText (groups.drop (start + longest))

def bracketed? (cs : List Char) : Option (List Char) :=
  if cs.getLast? = some ']' then
    (ipv6? cs.dropLast).map fun groups => '[' :: ipv6Text groups ++ [']']
  else none

/-! ### Hosts -/

def decoded? (cs : List Char) : Option (List Char) :=
  let bytes := Percent.decodeBytes (cs.flatMap String.utf8EncodeChar)
  (String.fromUTF8? ⟨bytes.toArray⟩).map String.toList

def known? (cs : List Char) : Option (List Char) :=
  match cs with
  | '[' :: rest => bracketed? rest
  | cs => do
    let name ← Domain.toAscii? (← decoded? cs)
    let parts := parts name
    if name.isEmpty then none
    else if endsInNumber parts then (ipv4? parts).map dotted
    else some name

def isForbidden (c : Char) : Bool := c.toNat == 0 || " #/:<>?@[\\]^|".toList.contains c

def other? (cs : List Char) : Option (List Char) :=
  match cs with
  | '[' :: rest => bracketed? rest
  | cs => if cs.any isForbidden then none else some (Part.plain.encoded cs)

end SensorFrames.Url.Host
