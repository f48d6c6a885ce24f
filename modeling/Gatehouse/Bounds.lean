/-!
The bounds of whole numbers that are kept in words of 32 and of 64 bits.
-/

namespace Gatehouse.Bounds

def max32 : Nat := 0xFFFFFFFF

def max64 : Nat := 0xFFFFFFFFFFFFFFFF

/-- The bounds of numbers of 64 bits with a sign. -/
def minSigned : Int := -0x8000000000000000
def maxSigned : Int := 0x7FFFFFFFFFFFFFFF

end Gatehouse.Bounds
