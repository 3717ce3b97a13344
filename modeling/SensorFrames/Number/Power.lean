/-!
The powers of two and of ten, which the figures of binary and decimal numbers count in.
-/

set_option autoImplicit false

namespace SensorFrames

def twoTo (n : Nat) : Nat := Nat.pow 2 n

def tenTo (n : Nat) : Nat := Nat.pow 10 n

end SensorFrames
