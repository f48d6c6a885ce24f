/-!
White space as the Unicode property `White_Space` has it, and trimming by it.
-/

namespace Gatehouse.Text

/-- The twenty-five characters of the property `White_Space`. -/
def isBlank (c : Char) : Bool :=
  let n := c.toNat
  (9 ≤ n && n ≤ 13) || n == 0x20 || n == 0x85 || n == 0xA0 || n == 0x1680
    || (0x2000 ≤ n && n ≤ 0x200A) || n == 0x2028 || n == 0x2029 || n == 0x202F
    || n == 0x205F || n == 0x3000

/-- Drop the white space in front. -/
def trimStart (cs : List Char) : List Char := cs.dropWhile isBlank

/-- Drop the white space at both ends. -/
def trim (s : String) : String :=
  String.ofList (trimStart (trimStart s.toList).reverse).reverse

/-- Nothing but white space. -/
def isBlankText (s : String) : Bool := s.toList.all isBlank

end Gatehouse.Text
