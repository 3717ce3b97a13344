import SensorFrames.Json.Basic

/-!
The compact text of a JSON value: no blanks, members in the order of their record. In a string the
quote and the backslash stand behind a backslash, and so do the characters below U+0020; all
others stand for themselves.
-/

set_option autoImplicit false

namespace SensorFrames.Json

def hexPair (n : Nat) : List Char := [Nat.digitChar (n / 16), Nat.digitChar (n % 16)]

def escaped (c : Char) : List Char :=
  if c = '"' then ['\\', '"']
  else if c = '\\' then ['\\', '\\']
  else if c = '\n' then ['\\', 'n']
  else if c = '\r' then ['\\', 'r']
  else if c = '\t' then ['\\', 't']
  else if c.toNat = 0x08 then ['\\', 'b']
  else if c.toNat = 0x0C then ['\\', 'f']
  else if c.toNat < 0x20 then ['\\', 'u', '0', '0'] ++ hexPair c.toNat
  else [c]

def textOfString (s : String) : String :=
  String.ofList ('"' :: s.toList.flatMap escaped ++ ['"'])

mutual

def text : Json → String
  | null => "null"
  | bool true => "true"
  | bool false => "false"
  | num n => n.text
  | str s => textOfString s
  | arr [] => "[]"
  | arr (x :: xs) => "[" ++ text x ++ textOfItems xs
  | obj [] => "\x7b\x7d"
  | obj ((k, v) :: rest) => "\x7b" ++ textOfString k ++ ":" ++ text v ++ textOfMembers rest

def textOfItems : List Json → String
  | [] => "]"
  | x :: xs => "," ++ text x ++ textOfItems xs

def textOfMembers : List (String × Json) → String
  | [] => "\x7d"
  | (k, v) :: rest => "," ++ textOfString k ++ ":" ++ text v ++ textOfMembers rest

end

end SensorFrames.Json
