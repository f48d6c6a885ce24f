import Gatehouse.Net.Domain.Direction
import Gatehouse.Net.Domain.Joiner
import Gatehouse.Net.Domain.Mapping
import Gatehouse.Net.Domain.Punycode
import Gatehouse.Text.Utf8

/-!
Names of hosts. A name is mapped, composed and cut at its dots; a part that begins with `xn--`
stands for another one. What is read back this way is a name if its characters are allowed,
their marks and joiners stand in their places, and its parts keep to their directions.
-/

namespace Gatehouse.Net.Domain

/-- Characters in ASCII that no name holds. -/
def isBarred (c : Char) : Bool :=
  c ≤ ' ' || c == '\x7f' || "#%/:<>?@[\\]^|".toList.contains c

def isPlain (c : Char) : Bool := c.toNat < 128

/-- The mapped and composed form, if all characters are allowed. -/
def mapped? (cs : List Char) : Option (List Char) :=
  ((cs.mapM mapChar).map fun css => composed css.flatten).filter fun cs => !cs.any isBarred

/-- How many characters a part may have that is not in ASCII, and one that stands for
another. -/
def maxPart : Nat := 1000
def maxExpanded : Nat := 2000

/-- What a part stands for that begins with the mark of such parts. -/
def expanded? (cs : List Char) : Option (List Char) :=
  if !cs.all isPlain || cs.isEmpty || cs.getLast? == some '-' || maxExpanded < cs.length then none
  else (expand? cs).filter fun part => mapped? part == some part

/-- What a part stands for. -/
def part? : List Char → Option (List Char)
  | 'x' :: 'n' :: '-' :: '-' :: cs => expanded? cs
  | cs => if !cs.all isPlain && maxPart < cs.length then none else some cs

/-- The marks and joiners of a part stand where they may. -/
def isWellPlaced (part : List Char) : Bool :=
  !(part.head?).any (marks.contains ·) && joinersOk [] part

/-- The parts that a name in UTF-8 has; those that stand for others are read as what they
stand for. -/
def read? (bytes : Bytes) : Option (List (List Char)) := do
  let text ← String.fromUTF8? ⟨bytes.toArray⟩
  let cs ← mapped? text.toList
  let parts ← (Text.splitAt '.' cs).mapM part?
  if parts.all isWellPlaced && directionsOk parts then some parts else none

end Gatehouse.Net.Domain
