import Gatehouse.Text.Ranges

/-!
Mappings of characters to texts. A mapping is written as lines of entries in hexadecimal: a
character, or the first and the last of some that stand together (`-`) or two apart (`+`); a
colon; and the code points of the text, with dots between them. The characters of a range are
mapped to characters that stand in the same way.
-/

namespace Gatehouse.Text

structure MappingEntry where
  first : Nat
  last : Nat
  apart : Nat
  target : List Nat
  deriving DecidableEq, Repr

abbrev Mapping := List MappingEntry

/-- An entry of a line. -/
def MappingEntry.read (cs : List Char) : MappingEntry :=
  let (source, target) := (cutFirst ':' cs).getD (cs, [])
  let target := (splitAt '.' target).map hexNat
  match cutFirst '-' source, cutFirst '+' source with
  | some (first, last), _ => ⟨hexNat first, hexNat last, 1, target⟩
  | none, some (first, last) => ⟨hexNat first, hexNat last, 2, target⟩
  | none, none => ⟨hexNat source, hexNat source, 1, target⟩

def MappingEntry.covers (e : MappingEntry) (n : Nat) : Bool :=
  e.first ≤ n && n ≤ e.last && (n - e.first) % e.apart == 0

/-- What the entry maps a code point to that it covers. -/
def MappingEntry.apply (e : MappingEntry) (n : Nat) : List Char :=
  e.target.map fun t => Char.ofNat (t + (n - e.first))

def Mapping.read (lines : List String) : Mapping := (entries lines).map MappingEntry.read

/-- What a character is mapped to, if it is. -/
def Mapping.find? (m : Mapping) (c : Char) : Option (List Char) :=
  (List.find? (·.covers c.toNat) m).map (·.apply c.toNat)

/-- The first character of an entry that maps to a text. -/
def Mapping.key? (m : Mapping) (target : List Char) : Option Char :=
  (List.find? (·.target == target.map Char.toNat) m).map fun e => Char.ofNat e.first

end Gatehouse.Text
