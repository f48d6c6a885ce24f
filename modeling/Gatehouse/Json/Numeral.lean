import Gatehouse.Bounds
import Gatehouse.Decimal.Shortest
import Gatehouse.Digest.Words

/-!
The numbers of JSON texts. A whole number that fits 64 bits is kept exactly; every other one
is a significand of 64 bits with a power of ten, and stands for a floating-point number.
-/

namespace Gatehouse.Json

inductive Numeral where
  | natural (n : Nat)
  | negative (n : Nat)
  | real (positive : Bool) (significand : Nat) (exponent : Int)
  deriving DecidableEq, Repr

/-- Digits that are taken into a number as long as it stays within a bound; the other digits
are left. -/
def absorb (bound : Nat) : Nat → List Nat → Nat × List Nat
  | n, [] => (n, [])
  | n, d :: ds => if bound < 10 * n + d then (n, d :: ds) else absorb bound (10 * n + d) ds

def maxNatural : Nat := Bounds.max64

def maxExponent : Nat := 0x7FFFFFFF

/-- The floating-point number nearest to a natural number of 64 bits. -/
def ofNatural (n : Nat) : Float := (UInt64.ofNat n).toFloat

def powerOfTen (n : Nat) : Float := Float.ofScientific 1 false n

/-- Divide by powers of ten of at most 308 until the exponent is used up or nothing is left. -/
def shrink : Nat → Float → Nat → Float
  | 0, x, _ => x
  | fuel + 1, x, n =>
      if n ≤ 308 then x / powerOfTen n
      else if x == 0 then x
      else shrink fuel (x / powerOfTen 308) (n - 308)

/-- A significand scaled by a power of ten, unless it is beyond the finite numbers. -/
def scaled? (significand : Nat) (exponent : Int) : Option Float :=
  let x := ofNatural significand
  match exponent with
  | .ofNat n =>
      if 308 < n then (if significand = 0 then some x else none)
      else
        let y := x * powerOfTen n
        if y.isInf then none else some y
  | .negSucc n => some (shrink 4 x (n + 1))

/-- The floating-point number that a numeral stands for. -/
def Numeral.float : Numeral → Float
  | .natural n => ofNatural n
  | .negative n => -(ofNatural n)
  | .real positive significand exponent =>
      let x := (scaled? significand exponent).getD 0
      if positive then x else -x

def Numeral.text : Numeral → String
  | .natural n => toString n
  | .negative n => "-" ++ toString n
  | .real p s e => Decimal.text (Numeral.real p s e).float

/-- A whole number between the bounds of 64-bit signed ones. -/
def Numeral.integer? : Numeral → Option Int
  | .natural n => if n < 0x8000000000000000 then some n else none
  | .negative n => some (-n)
  | .real .. => none

end Gatehouse.Json
