import Gatehouse.Text.Cut
import Gatehouse.Text.Hex

/-!
Sets of characters as ranges of code points. A set is written as lines of ranges in
hexadecimal, each the first and the last code point, or one code point alone.
-/

namespace Gatehouse.Text

structure Range where
  first : Nat
  last : Nat
  deriving DecidableEq, Repr

abbrev Ranges := List Range

/-- A number in hexadecimal. -/
def hexNat (cs : List Char) : Nat :=
  cs.foldl (fun n c => 16 * n + (hexValue? c).getD 0) 0

/-- A range of a line. -/
def Range.read (cs : List Char) : Range :=
  match cutFirst '-' cs with
  | some (first, last) => ⟨hexNat first, hexNat last⟩
  | none => ⟨hexNat cs, hexNat cs⟩

/-- The entries of lines, between spaces. -/
def entries (lines : List String) : List (List Char) :=
  lines.flatMap fun line => splitAt ' ' line.toList

def Ranges.read (lines : List String) : Ranges := (entries lines).map Range.read

def Ranges.contains (rs : Ranges) (c : Char) : Bool :=
  rs.any fun r => r.first ≤ c.toNat && c.toNat ≤ r.last

end Gatehouse.Text
