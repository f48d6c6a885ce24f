/-!
The shortest decimal that reads back as a given floating-point number. The number is taken as
`m * 2 ^ q`, and everything is decided on natural numbers: the decimals that round to it fill
an interval, and of the grids with one digit, two digits and so on the first one that meets
the interval is used.
-/

namespace Gatehouse.Decimal

/-- A positive decimal, `digits * 10 ^ exponent`. -/
structure Positive where
  digits : Nat
  exponent : Int
  deriving DecidableEq, Repr

/-- Numbers that are compared after scaling by a power of two and a power of ten, each of
either sign. -/
def scale (n : Nat) (two ten : Int) : Nat × Nat :=
  (n * Nat.pow 2 two.toNat * Nat.pow 10 ten.toNat,
    Nat.pow 2 (-two).toNat * Nat.pow 10 (-ten).toNat)

/-- The decimals around `m * 2 ^ q` that read back as it: bounds in quarters of a unit, and
whether the bounds themselves belong. The gap below a power of two is half as wide. -/
structure Interval where
  low : Nat
  value : Nat
  high : Nat
  closed : Bool

def interval (m : Nat) (narrow : Bool) : Interval :=
  ⟨4 * m - (if narrow then 1 else 2), 4 * m, 4 * m + 2, m % 2 == 0⟩

/-- How many zeros follow the point of a fraction, looked for from `k` on. -/
def leadingZeros (n d : Nat) : Nat → Nat → Nat
  | 0, k => k
  | fuel + 1, k => if d ≤ n * Nat.pow 10 (k + 1) then k else leadingZeros n d fuel (k + 1)

/-- The place of the first digit: the value is below ten to this power, and not below a
tenth of it. -/
def magnitude (n d : Nat) : Int :=
  if d ≤ n then ((Nat.toDigits 10 (n / d)).length : Int)
  else -(leadingZeros n d 400 0 : Int)

/-- The candidate of `count` digits, when one lies in the interval; the nearer of two, and of
two that are equally near the even one. -/
def candidate (i : Interval) (q : Int) (place : Int) (count : Nat) : Option Positive :=
  let exponent := place - count
  let (v, d) := scale i.value (q - 2) (-exponent)
  let (low, _) := scale i.low (q - 2) (-exponent)
  let (high, _) := scale i.high (q - 2) (-exponent)
  let inside (x : Nat) : Bool :=
    if i.closed then low ≤ x * d && x * d ≤ high else low < x * d && x * d < high
  let below := v / d
  let above := below + 1
  let nearer :=
    if 2 * (v % d) < d then below
    else if d < 2 * (v % d) then above
    else if below % 2 = 0 then below
    else above
  if inside nearer then some ⟨nearer, exponent⟩
  else if inside below then some ⟨below, exponent⟩
  else if inside above then some ⟨above, exponent⟩
  else none

/-- Drop zeros from the end of the digits. -/
def strip : Nat → Positive → Positive
  | 0, p => p
  | fuel + 1, p =>
      if p.digits % 10 = 0 ∧ p.digits ≠ 0 then strip fuel ⟨p.digits / 10, p.exponent + 1⟩
      else p

/-- Try one digit more until a candidate is found; seventeen digits always suffice. -/
def search (i : Interval) (q place : Int) : Nat → Nat → Positive
  | 0, count => ⟨0, count⟩
  | fuel + 1, count => (candidate i q place count).getD (search i q place fuel (count + 1))

/-- The shortest decimal for `m * 2 ^ q`. -/
def shortest (m : Nat) (q : Int) (narrow : Bool) : Positive :=
  let i := interval m narrow
  let (v, d) := scale i.value (q - 2) 0
  strip 20 (search i q (magnitude v d) 18 1)

/-- The parts of a finite number that is not zero: significand, exponent, and whether the gap
below it is the narrow one. -/
def parts (bits : UInt64) : Nat × Int × Bool :=
  let fraction := bits.toNat % 0x10000000000000
  let exponent : Nat := bits.toNat / 0x10000000000000 % 0x800
  if exponent = 0 then (fraction, -1074, false)
  else (fraction + 0x10000000000000, (exponent : Int) - 1075, fraction == 0 && 1 < exponent)

/-- Digits with a point, or with an exponent and its sign when the point would fall far from
them: from ten to the minus fifth up to ten to the sixteenth the point is written. A whole
number keeps one zero behind the point. -/
def Positive.text (p : Positive) : String :=
  let ds := Nat.toDigits 10 p.digits
  let place : Int := ds.length + p.exponent
  if 0 ≤ p.exponent ∧ place ≤ 16 then
    String.ofList (ds ++ List.replicate p.exponent.toNat '0') ++ ".0"
  else if 0 < place ∧ place ≤ 16 then
    String.ofList (ds.take place.toNat ++ '.' :: ds.drop place.toNat)
  else if -5 < place ∧ place ≤ 0 then
    "0." ++ String.ofList (List.replicate (-place).toNat '0' ++ ds)
  else
    let tail := if ds.length = 1 then [] else '.' :: ds.drop 1
    let sign := if 0 < place then "+" else ""
    String.ofList (ds.take 1 ++ tail) ++ s!"e{sign}{place - 1}"

/-- The text of a finite number. -/
def text (x : Float) : String :=
  let sign := if 0x8000000000000000 ≤ x.toBits.toNat then "-" else ""
  let (m, q, narrow) := parts x.toBits
  if m = 0 then sign ++ "0.0" else sign ++ (shortest m q narrow).text

end Gatehouse.Decimal
