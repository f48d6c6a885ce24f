import Gatehouse.Text.Hex
import Gatehouse.Text.Utf8

/-!
Texts in which a percent sign and two hexadecimal digits stand for a byte.
-/

namespace Gatehouse.Net

/-- The bytes that a text stands for; a percent sign without two digits stands for itself. -/
def percentDecoded : Bytes → Bytes
  | [] => []
  | [b] => [b]
  | [b, c] => [b, c]
  | b :: h :: l :: rest =>
      if b = 37 then
        match Text.hexValue? (Char.ofNat h.toNat), Text.hexValue? (Char.ofNat l.toNat) with
        | some x, some y => UInt8.ofNat (16 * x + y) :: percentDecoded rest
        | _, _ => b :: percentDecoded (h :: l :: rest)
      else b :: percentDecoded (h :: l :: rest)

def decodedBytes (cs : List Char) : Bytes := percentDecoded (Text.utf8 (String.ofList cs))

/-- The bytes of a part of a query; a plus sign stands for a space. -/
def queryBytes (cs : List Char) : Bytes :=
  decodedBytes (cs.map fun c => if c = '+' then ' ' else c)

end Gatehouse.Net
