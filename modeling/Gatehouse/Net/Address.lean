import Gatehouse.Text.Hex

/-!
Network addresses and their text. Addresses of version 6 are written with the longest run of
zero groups left out, the first of several; one that wraps an address of version 4 shows it.
-/

namespace Gatehouse.Net

inductive Address where
  | v4 (octets : List Nat)
  | v6 (groups : List Nat)
  deriving DecidableEq, Repr

/-- An address and a port. The scope is of version 6 only; zero is none. -/
structure Endpoint where
  address : Address
  port : Nat
  scope : Nat := 0
  deriving DecidableEq, Repr

def octetsText (octets : List Nat) : String := String.intercalate "." (octets.map toString)

def groupsText (groups : List Nat) : String :=
  String.intercalate ":" (groups.map Text.hexOfNat)

/-- How many zero groups stand in front. -/
def zeros (groups : List Nat) : Nat := (groups.takeWhile (· == 0)).length

/-- Start and length of the longest run of zeros, of those that start at `i` or later. -/
def longestRun : Nat → List Nat → Nat × Nat
  | _, [] => (0, 0)
  | i, g :: gs =>
      let later := longestRun (i + 1) gs
      let here := zeros (g :: gs)
      if later.2 ≤ here then (i, here) else later

def Address.text : Address → String
  | .v4 octets => octetsText octets
  | .v6 [0, 0, 0, 0, 0, 0xFFFF, a, b] =>
      "::ffff:" ++ octetsText [a / 256, a % 256, b / 256, b % 256]
  | .v6 groups =>
      let (start, count) := longestRun 0 groups
      if 1 < count then
        groupsText (groups.take start) ++ "::" ++ groupsText (groups.drop (start + count))
      else groupsText groups

def Endpoint.text (e : Endpoint) : String :=
  match e.address with
  | .v4 octets => s!"{octetsText octets}:{e.port}"
  | .v6 groups =>
      let scope := if e.scope = 0 then "" else s!"%{e.scope}"
      s!"[{(Address.v6 groups).text}{scope}]:{e.port}"

/-- Readers of parts of an address. -/
abbrev Part (α : Type) := StateT (List Char) Option α

def char (c : Char) : Part Unit := fun cs =>
  match cs with
  | x :: rest => if x = c then some ((), rest) else none
  | [] => none

/-- A number in a base: at most so many digits, at most so large, perhaps with zeros in
front. -/
def number (base : Nat) (digits : Option Nat) (bound : Nat) (leadingZeros : Bool) : Part Nat :=
  fun cs =>
    let ds := cs.map (fun c => (Text.hexValue? c).filter (· < base))
      |>.takeWhile (·.isSome) |>.filterMap id
    let value := ds.foldl (fun n d => base * n + d) 0
    if ds.isEmpty || digits.any (· < ds.length) || bound < value
        || (!leadingZeros && 1 < ds.length && ds.head? == some 0) then none
    else some (value, cs.drop ds.length)

def octet : Part Nat := number 10 (some 3) 255 false

def octets : Part (List Nat) := do
  let a ← octet
  char '.'
  let b ← octet
  char '.'
  let c ← octet
  char '.'
  let d ← octet
  pure [a, b, c, d]

/-- Try a part; nothing is taken when it fails. -/
def attempt {α : Type} (part : Part α) : Part (Option α) := fun cs =>
  match part cs with
  | some (a, rest) => some (some a, rest)
  | none => some (none, cs)

/-- A part behind a colon, or without one at the start. -/
def item {α : Type} (first : Bool) (part : Part α) : Part α := do
  if !first then char ':'
  part

/-- Up to `limit` groups; the last two may be written as an address of version 4, which the
answer tells. -/
def groups : Nat → Bool → Part (List Nat × Bool)
  | 0, _ => pure ([], false)
  | limit + 1, first => do
      let wrapped ← if 0 < limit then attempt (item first octets) else pure none
      match wrapped with
      | some [a, b, c, d] => pure ([256 * a + b, 256 * c + d], true)
      | _ =>
          match ← attempt (item first (number 16 (some 4) 0xFFFF true)) with
          | none => pure ([], false)
          | some g => do
              let (gs, wrapped) ← groups limit false
              pure (g :: gs, wrapped)

/-- Eight groups, or fewer around two colons. -/
def v6 : Part (List Nat) := do
  let (head, wrapped) ← groups 8 true
  if head.length = 8 then pure head
  else if wrapped then failure
  else
    char ':'
    char ':'
    let (tail, _) ← groups (7 - head.length) true
    pure (head ++ List.replicate (8 - head.length - tail.length) 0 ++ tail)

/-- Read an address. -/
def Address.read? (s : String) : Option Address :=
  match octets s.toList, Net.v6 s.toList with
  | some (os, []), _ => some (.v4 os)
  | _, some (gs, []) => some (.v6 gs)
  | _, _ => none

def port : Part Nat := do
  char ':'
  number 10 none 65535 true

def endpointV4 : Part Endpoint := do
  let os ← octets
  return ⟨.v4 os, ← port, 0⟩

def scope : Part Nat := do
  char '%'
  number 10 none 0xFFFFFFFF true

def endpointV6 : Part Endpoint := do
  char '['
  let gs ← v6
  let s ← attempt scope
  char ']'
  return ⟨.v6 gs, ← port, s.getD 0⟩

/-- Read an address with a port. -/
def Endpoint.read? (s : String) : Option Endpoint :=
  match (endpointV4 s.toList).orElse fun _ => endpointV6 s.toList with
  | some (e, []) => some e
  | _ => none

end Gatehouse.Net
