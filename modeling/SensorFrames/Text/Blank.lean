/-!
Blank characters are the code points with the White_Space property. A text is trimmed by taking
the blanks off both ends; what stands between stays as it is.
-/

set_option autoImplicit false

namespace SensorFrames.Text

/-- The code points with the White_Space property. -/
def blanks : List Nat :=
  [0x09, 0x0A, 0x0B, 0x0C, 0x0D, 0x20, 0x85, 0xA0, 0x1680, 0x2000, 0x2001, 0x2002, 0x2003, 0x2004,
    0x2005, 0x2006, 0x2007, 0x2008, 0x2009, 0x200A, 0x2028, 0x2029, 0x202F, 0x205F, 0x3000]

def isBlank (c : Char) : Bool := blanks.contains c.toNat

def skipBlank (cs : List Char) : List Char := cs.dropWhile isBlank

def trimmed (cs : List Char) : List Char := (skipBlank (skipBlank cs).reverse).reverse

def trim (s : String) : String := String.ofList (trimmed s.toList)

@[simp] theorem toList_trim (s : String) : (trim s).toList = trimmed s.toList := by
  simp [trim]

theorem skipBlank_append {pad : List Char} (h : ∀ c ∈ pad, isBlank c = true) (cs : List Char) :
    skipBlank (pad ++ cs) = skipBlank cs := by
  induction pad with
  | nil => rfl
  | cons c pad ih =>
    have hc : isBlank c = true := h c (by simp)
    have hp : ∀ x ∈ pad, isBlank x = true := fun x hx => h x (by simp [hx])
    simpa [skipBlank, hc] using ih hp

theorem trim_of_blank {s : String} (h : ∀ c ∈ s.toList, isBlank c = true) : trim s = "" := by
  have hs : skipBlank s.toList = [] := by simpa [skipBlank] using skipBlank_append h []
  rw [trim, trimmed, hs]
  rfl

end SensorFrames.Text
