import Gatehouse.Net.Address
import Gatehouse.Net.Domain.Name
import Gatehouse.Net.Percent

/-!
Hosts in addresses of services. A host in brackets is an address of version 6. Others are plain
text, or, for the schemes of the web, names of hosts and addresses of version 4; a name that
ends in a number has to be such an address.
-/

namespace Gatehouse.Net

inductive Host where
  | text (cs : List Char)
  | name (parts : List (List Char))
  | address
  deriving DecidableEq, Repr

/-- Why a text is no host. -/
inductive HostFault where
  | empty
  | badCharacter
  | badName
  | badVersion4
  | badVersion6
  deriving DecidableEq, Repr

def HostFault.message : HostFault → String
  | .empty => "empty host"
  | .badCharacter => "invalid domain character"
  | .badName => "invalid international domain name"
  | .badVersion4 => "invalid IPv4 address"
  | .badVersion6 => "invalid IPv6 address"

namespace Host

/-- Digits of a base. -/
def digitsIn? (base : Nat) (cs : List Char) : Option Nat :=
  (cs.mapM fun c => (Text.hexValue? c).filter (· < base)).map
    (·.foldl (fun n d => base * n + d) 0)

/-- A number of an address of version 4: behind `0x` it is hexadecimal, behind another zero
octal. -/
def number? : List Char → Option Nat
  | [] => none
  | '0' :: 'x' :: cs => digitsIn? 16 cs
  | '0' :: c :: cs => digitsIn? 8 (c :: cs)
  | cs => digitsIn? 10 cs

/-- A dot at the end counts for nothing. -/
def withoutEmptyEnd (parts : List (List Char)) : List (List Char) :=
  match parts.reverse with
  | [] :: last :: before => (last :: before).reverse
  | _ => parts

/-- The last part is a number, or consists of digits. -/
def endsInNumber (parts : List (List Char)) : Bool :=
  match (withoutEmptyEnd parts).getLast? with
  | none => false
  | some last => (!last.isEmpty && last.all Char.isDigit) || (number? last).isSome

/-- Up to four numbers: all but the last fill a byte each, and the last fills the others. -/
def isVersion4 (parts : List (List Char)) : Bool :=
  match (withoutEmptyEnd parts).mapM number? with
  | none => false
  | some ns =>
      match ns.reverse with
      | [] => false
      | last :: before =>
          ns.length ≤ 4 && before.all (· ≤ 255) && last < 0x100000000 >>> (8 * before.length)

/-- Read an address in brackets, of which the first has been taken. -/
def readBracketed (cs : List Char) : Except HostFault Host :=
  if cs.getLast? = some ']' ∧ (v6 cs.dropLast).any (·.2.isEmpty) then .ok .address
  else .error .badVersion6

/-- Characters that no plain host has. -/
def isBarred (c : Char) : Bool := "\x00\t\n\x0d #/:<>?@[\\]^|".toList.contains c

/-- Read a plain host. -/
def readPlain : List Char → Except HostFault Host
  | '[' :: cs => readBracketed cs
  | cs => if cs.any isBarred then .error .badCharacter else .ok (.text cs)

/-- Read a host of the web. -/
def readName : List Char → Except HostFault Host
  | '[' :: cs => readBracketed cs
  | cs =>
      match Domain.read? (decodedBytes cs) with
      | none => .error .badName
      | some parts =>
          if parts.all (·.isEmpty) && parts.length ≤ 1 then .error .empty
          else if !endsInNumber parts then .ok (.name parts)
          else if isVersion4 parts then .ok .address
          else .error .badVersion4

end Host
end Gatehouse.Net
