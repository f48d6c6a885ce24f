/-!
Decimal numerals. A numeral for an unsigned quantity may carry one plus sign, one for a
signed quantity a plus or a minus sign; beyond the sign it is ASCII digits only, at least
one, and the value has to fit the bounds of the quantity.
-/

namespace Gatehouse.Text

def digit? (c : Char) : Option Nat :=
  if '0' ≤ c ∧ c ≤ '9' then some (c.toNat - 48) else none

/-- The value of a run of digits read after `acc`; `none` when something else stands in it. -/
def digitsFrom (acc : Nat) : List Char → Option Nat
  | [] => some acc
  | c :: cs => (digit? c).bind fun d => digitsFrom (10 * acc + d) cs

/-- A non-empty run of digits. -/
def digits? : List Char → Option Nat
  | [] => none
  | cs => digitsFrom 0 cs

/-- An unsigned numeral of value at most `bound`. -/
def natural? (bound : Nat) (s : String) : Option Nat :=
  let body := match s.toList with
    | '+' :: cs => cs
    | cs => cs
  (digits? body).filter (· ≤ bound)

/-- Why a text is no unsigned numeral. -/
inductive NumeralFault where
  | empty
  | badDigit
  | tooLarge
  deriving DecidableEq, Repr

def NumeralFault.message : NumeralFault → String
  | .empty => "cannot parse integer from empty string"
  | .badDigit => "invalid digit found in string"
  | .tooLarge => "number too large to fit in target type"

/-- The value of digits behind `acc`, or the first fault: a digit may spoil the numeral itself
or make it too large. -/
def boundedFrom (bound acc : Nat) : List Char → Except NumeralFault Nat
  | [] => .ok acc
  | c :: cs =>
      match digit? c with
      | none => .error .badDigit
      | some d =>
          if bound < 10 * acc + d then .error .tooLarge else boundedFrom bound (10 * acc + d) cs

/-- An unsigned numeral of value at most `bound`, or what is wrong with it. -/
def readNatural (bound : Nat) (s : String) : Except NumeralFault Nat :=
  match s.toList with
  | [] => .error .empty
  | '+' :: c :: cs => boundedFrom bound 0 (c :: cs)
  | cs => boundedFrom bound 0 cs

/-- A run of digits behind at most one sign. -/
def signed? : List Char → Option Int
  | '+' :: cs => (digits? cs).map Int.ofNat
  | '-' :: cs => (digits? cs).map fun n => -Int.ofNat n
  | cs => (digits? cs).map Int.ofNat

/-- A signed numeral of value between `low` and `high`. -/
def integer? (low high : Int) (s : String) : Option Int :=
  (signed? s.toList).filter fun n => low ≤ n && n ≤ high

end Gatehouse.Text
