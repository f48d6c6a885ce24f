import Gatehouse.Text.Cut
import Gatehouse.Text.Integer

/-!
Reading a floating-point number: digits with or without a point and a power of ten, or a word
for what is no finite number. Nothing else may stand around them. The number read is the one
nearest to the numeral.
-/

namespace Gatehouse.Decimal

/-- Digits with at most one point among them, and how many of them stand behind it. -/
def significand? (cs : List Char) : Option (Nat × Nat) :=
  match Text.cutFirst '.' cs with
  | none => (Text.digits? cs).map fun n => (n, 0)
  | some (whole, fraction) =>
      (Text.digits? (whole ++ fraction)).map fun n => (n, fraction.length)

/-- The power of ten behind the digits. -/
def exponent? : List Char → Option Int
  | [] => some 0
  | _ :: cs => Text.signed? cs

/-- A significand and its power of ten. -/
def numeral? (cs : List Char) : Option (Nat × Int) := do
  let isMark (c : Char) : Bool := c == 'e' || c == 'E'
  let (n, places) ← significand? (cs.takeWhile fun c => !isMark c)
  let power ← exponent? (cs.dropWhile fun c => !isMark c)
  return (n, power - places)

def infinity : Float := Float.ofBits 0x7FF0000000000000

def notANumber : Float := Float.ofBits 0x7FF8000000000000

/-- The number nearest to `n * 10 ^ power`. Powers far beyond the range of the numbers are
not computed. -/
def nearest (n : Nat) (power : Int) : Float :=
  let place := (Nat.toDigits 10 n).length + power
  if n = 0 ∨ place < -400 then 0
  else if 400 < place then infinity
  else Float.ofScientific n (power < 0) power.natAbs

/-- Words in either case, and numerals. -/
def unsigned? (cs : List Char) : Option Float :=
  match String.ofList (cs.map Char.toLower) with
  | "inf" | "infinity" => some infinity
  | "nan" => some notANumber
  | _ => (numeral? cs).map fun p => nearest p.1 p.2

/-- Read a number with at most one sign in front. -/
def read? (s : String) : Option Float :=
  match s.toList with
  | '+' :: cs => unsigned? cs
  | '-' :: cs => (unsigned? cs).map fun x => -x
  | cs => unsigned? cs

/-- The whole number towards zero, or the nearest one of 64 bits with a sign; what is no
number counts as zero. -/
def truncate (x : Float) : Int := x.toInt64.toInt

end Gatehouse.Decimal
