import Gatehouse.Digest.Sha1
import Gatehouse.Text.Hex

/-!
Universally unique identifiers: random ones, ones derived from a name, and their text.
They are written in lower case with hyphens, and read in four forms: with hyphens, without,
and with hyphens in braces or behind `urn:uuid:`.
-/

namespace Gatehouse

structure Uuid where
  bits : BitVec 128
  deriving DecidableEq, Repr

namespace Uuid

def bytes (u : Uuid) : Bytes := Digest.bigEndian 16 u.bits.toNat

def ofBytes (bs : Bytes) : Uuid := ⟨BitVec.ofNat 128 (Digest.ofBigEndian bs)⟩

/-- Set the four bits of the version and the two bits of the variant. -/
def stamp (version : Nat) (bits : BitVec 128) : Uuid :=
  let cleared := bits &&& ~~~(0xF#128 <<< 76) &&& ~~~(3#128 <<< 62)
  ⟨cleared ||| (BitVec.ofNat 128 version <<< 76) ||| (2#128 <<< 62)⟩

/-- A random identifier from a draw of 128 bits. -/
def random (draw : BitVec 128) : Uuid := stamp 4 draw

/-- The identifier of a name in a name space. -/
def named (space : Uuid) (name : Bytes) : Uuid :=
  stamp 5 (ofBytes ((Digest.Sha1.digest (space.bytes ++ name)).take 16)).bits

/-- The name space of addresses of resources. -/
def urlSpace : Uuid := ⟨0x6ba7b8119dad11d180b400c04fd430c8#128⟩

/-- The name space of object identifiers. -/
def oidSpace : Uuid := ⟨0x6ba7b8129dad11d180b400c04fd430c8#128⟩

/-- The thirty-two digits. -/
def digits (u : Uuid) : List Char := Text.hexOfBytes u.bytes

/-- Put hyphens between the groups of eight, four, four, four and twelve digits. -/
def hyphenate (ds : List Char) : List Char :=
  ds.take 8 ++ '-' :: ((ds.drop 8).take 4 ++ '-' :: ((ds.drop 12).take 4
    ++ '-' :: ((ds.drop 16).take 4 ++ '-' :: ds.drop 20)))

def text (u : Uuid) : String := String.ofList (hyphenate u.digits)

def plainText (u : Uuid) : String := String.ofList u.digits

def ofDigits? (ds : List Char) : Option Uuid :=
  if ds.length = 32 then (Text.bytesOfHex? ds).map ofBytes else none

/-- The digits of the hyphenated form. -/
def unhyphenate? (cs : List Char) : Option (List Char) :=
  let ds := cs.filter (· != '-')
  if hyphenate ds = cs then some ds else none

def ofHyphenated? (cs : List Char) : Option Uuid := (unhyphenate? cs).bind ofDigits?

/-- Read an identifier in any of its forms. -/
def read? (s : String) : Option Uuid :=
  let cs := s.toList
  match cs.length with
  | 32 => ofDigits? cs
  | 36 => ofHyphenated? cs
  | 38 =>
      match cs with
      | '{' :: rest => if cs.getLast? = some '}' then ofHyphenated? rest.dropLast else none
      | _ => none
  | 45 =>
      if (cs.take 9).map Char.toLower = "urn:uuid:".toList then ofHyphenated? (cs.drop 9)
      else none
  | _ => none

end Uuid
end Gatehouse
