import SensorFrames.Text.Shown

/-!
A text between double quotes, as messages show it. The quote and the backslash stand behind a
backslash, and so do the letters of the tab, the line ends and the null; any other character that
is not shown stands as `\u`, with its number in braces.
-/

set_option autoImplicit false

namespace SensorFrames.Text

def quotedChar (c : Char) : List Char :=
  if c = '"' then ['\\', '"']
  else if c = '\\' then ['\\', '\\']
  else if c = '\t' then ['\\', 't']
  else if c = '\n' then ['\\', 'n']
  else if c = '\r' then ['\\', 'r']
  else if c = '\x00' then ['\\', '0']
  else if isShown c then [c]
  else ['\\', 'u', '\x7b'] ++ Nat.toDigits 16 c.toNat ++ ['\x7d']

def quoted (s : String) : String :=
  String.ofList ('"' :: s.toList.flatMap quotedChar ++ ['"'])

end SensorFrames.Text
