import SensorFrames.Timestamp.Internet
import SensorFrames.Timestamp.Mail
import SensorFrames.Timestamp.Pattern

/-!
Whether a text is a date. It has to hold a separator or a time marker, so that a bare number is
none, and without the blanks around it it has to be in one of the accepted formats.
-/

set_option autoImplicit false

namespace SensorFrames.Timestamp

open Text

/-- The zeros of the scripts with decimal digits. The other nine digits follow each of them. -/
def zeros : List Nat :=
  [0x0030, 0x0660, 0x06F0, 0x07C0, 0x0966, 0x09E6, 0x0A66, 0x0AE6, 0x0B66, 0x0BE6, 0x0C66, 0x0CE6,
    0x0D66, 0x0DE6, 0x0E50, 0x0ED0, 0x0F20, 0x1040, 0x1090, 0x17E0, 0x1810, 0x1946, 0x19D0, 0x1A80,
    0x1A90, 0x1B50, 0x1BB0, 0x1C40, 0x1C50, 0xA620, 0xA8D0, 0xA900, 0xA9D0, 0xA9F0, 0xAA50, 0xABF0,
    0xFF10, 0x104A0, 0x10D30, 0x10D40, 0x11066, 0x110F0, 0x11136, 0x111D0, 0x112F0, 0x11450,
    0x114D0, 0x11650, 0x116C0, 0x116D0, 0x116DA, 0x11730, 0x118E0, 0x11950, 0x11BF0, 0x11C50,
    0x11D50, 0x11DA0, 0x11DE0, 0x11F50, 0x16130, 0x16A60, 0x16AC0, 0x16B50, 0x16D70, 0x1CCF0,
    0x1D7CE, 0x1D7D8, 0x1D7E2, 0x1D7EC, 0x1D7F6, 0x1E140, 0x1E2F0, 0x1E4F0, 0x1E5F1, 0x1E950,
    0x1FBF0]

def isDecimalDigit (c : Char) : Bool :=
  zeros.any fun first => decide (first ≤ c.toNat) && decide (c.toNat < first + 10)

def isSeparator (c : Char) : Bool := c == '-' || c == '/' || c == ':'

def beginsWithHour : List Char → Bool
  | blank :: tens :: ones :: colon :: _ =>
    isBlank blank && isDecimalDigit tens && isDecimalDigit ones && colon == ':'
  | _ => false

def hasTimeMarker : List Char → Bool
  | [] => false
  | c :: rest => c == 'T' || c == 'Z' || beginsWithHour (c :: rest) || hasTimeMarker rest

/-- Whether the text as it is has a separator or a time marker, and is accepted without the blanks
around it. -/
def looksLike (accepts : List Char → Bool) (s : String) : Bool :=
  (s.toList.any isSeparator || hasTimeMarker s.toList) && accepts (trimmed s.toList)

def isAccepted (cs : List Char) : Bool :=
  Internet.accepts cs || Mail.accepts cs || Pattern.universal.any (·.accepts cs) ||
    Pattern.localTime.any (·.accepts cs) || Pattern.dates.any (·.accepts cs)

def looksLikeDate (s : String) : Bool := looksLike isAccepted s

end SensorFrames.Timestamp
