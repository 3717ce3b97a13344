/-!
Percent encoding. Letters, digits and `-_.~` stand for themselves; every other character is
written byte by byte, each byte of its UTF-8 form as `%` and two hexadecimal digits. Decoding
reads such triples back and leaves every other byte alone.
-/

set_option autoImplicit false

namespace SensorFrames.Text.Percent

def isUnreserved (c : Char) : Bool :=
  c.isAlphanum || c == '-' || c == '_' || c == '.' || c == '~'

def hexDigit (n : Nat) : Char := Char.ofNat (if n < 10 then 0x30 + n else 0x37 + n)

def hexValue (b : UInt8) : Option Nat :=
  let n := b.toNat
  if 0x30 ≤ n ∧ n ≤ 0x39 then some (n - 0x30)
  else if 0x41 ≤ n ∧ n ≤ 0x46 then some (n - 0x37)
  else if 0x61 ≤ n ∧ n ≤ 0x66 then some (n - 0x57)
  else none

def triple (b : UInt8) : List Char := ['%', hexDigit (b.toNat / 16), hexDigit (b.toNat % 16)]

def encodeChar (c : Char) : List Char :=
  if isUnreserved c then [c] else (String.utf8EncodeChar c).flatMap triple

def encode (s : String) : String := String.ofList (s.toList.flatMap encodeChar)

@[simp] theorem toList_encode (s : String) : (encode s).toList = s.toList.flatMap encodeChar := by
  simp [encode]

/-- A `%` without two hexadecimal digits after it stands for itself. -/
def decodeBytes : List UInt8 → List UInt8
  | [] => []
  | b :: h :: l :: rest =>
    if b = 0x25 then
      match hexValue h, hexValue l with
      | some high, some low => UInt8.ofNat (16 * high + low) :: decodeBytes rest
      | _, _ => b :: decodeBytes (h :: l :: rest)
    else b :: decodeBytes (h :: l :: rest)
  | b :: rest => b :: decodeBytes rest

def utf8 (s : String) : List UInt8 := s.toList.flatMap String.utf8EncodeChar

end SensorFrames.Text.Percent
