import Gatehouse.Text.Blank
import Gatehouse.Text.Cut
import Gatehouse.Digest.Words

/-!
The headers of a request. Names are kept in lower case; of several headers of one name the
first counts. A value is text when its bytes are visible ASCII, spaces and tabs.
-/

namespace Gatehouse.Net

abbrev Headers := List (String × Bytes)

def Headers.ofList (hs : List (String × Bytes)) : Headers :=
  hs.map fun h => (String.ofList (h.1.toList.map Char.toLower), h.2)

def isTextByte (b : UInt8) : Bool := (32 ≤ b && b ≤ 126) || b == 9

/-- The text of a value. -/
def valueText? (value : Bytes) : Option String :=
  if value.all isTextByte then some (String.ofList (value.map fun b => Char.ofNat b.toNat))
  else none

def Headers.first? (hs : Headers) (name : String) : Option Bytes := hs.lookup name

/-- The text of the first header of a name. -/
def Headers.text? (hs : Headers) (name : String) : Option String :=
  (hs.first? name).bind valueText?

end Gatehouse.Net
