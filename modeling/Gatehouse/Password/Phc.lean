import Gatehouse.Bounds
import Gatehouse.Password.Cost
import Gatehouse.Text.Base64
import Gatehouse.Text.Cut
import Gatehouse.Text.Integer

/-!
The string form of a password digest: fields behind dollar signs for the algorithm, the
version, the cost parameters, the salt and the digest. The last four may be missing from
the end, and version and parameters may be left out.
-/

namespace Gatehouse.Password

/-- A digest in its string form, read but not yet interpreted. Parameters are kept in
order, repeated names included; the salt is kept as text. -/
structure Encoded where
  algorithm : String
  version : Option Nat
  parameters : List (String × String)
  salt : Option String
  digest : Option Bytes
  deriving DecidableEq, Repr

/-- Names of algorithms and parameters: up to thirty-two lower-case letters, digits and
hyphens. -/
def isName (cs : List Char) : Bool :=
  !cs.isEmpty && cs.length ≤ 32
    && cs.all fun c => ('a' ≤ c && c ≤ 'z') || ('0' ≤ c && c ≤ '9') || c == '-'

/-- Values of parameters: up to sixty-four letters, digits, and `-`, `+`, `/`, `.`. -/
def isValue (cs : List Char) : Bool :=
  cs.length ≤ 64
    && cs.all fun c => ('a' ≤ c && c ≤ 'z') || ('A' ≤ c && c ≤ 'Z') || ('0' ≤ c && c ≤ '9')
      || c == '-' || c == '+' || c == '/' || c == '.'

/-- A decimal value without leading zeros that fits 32 bits. -/
def decimal? (cs : List Char) : Option Nat :=
  if !isValue cs || (cs.length > 1 && cs.head? == some '0') then none
  else (Text.digits? cs).filter (· ≤ Bounds.max32)

def parameter? (cs : List Char) : Option (String × String) :=
  match Text.splitAt '=' cs with
  | [name, value] =>
      if isName name && isValue value then some (String.ofList name, String.ofList value)
      else none
  | _ => none

/-- At most 127 bytes of parameters, separated by commas. -/
def parameters? (cs : List Char) : Option (List (String × String)) :=
  if 127 < (String.ofList cs).utf8ByteSize then none
  else (Text.splitAt ',' cs).mapM parameter?

/-- A salt is a value of four characters or more. -/
def salt? (cs : List Char) : Option String :=
  if isValue cs && 4 ≤ cs.length then some (String.ofList cs) else none

/-- A digest is of ten to sixty-four bytes. -/
def digest? (cs : List Char) : Option Bytes :=
  (Text.Base64.decode? .standard cs).filter fun bytes =>
    10 ≤ bytes.length && bytes.length ≤ 64

/-- The version, where the field is one. -/
def versionField? : List Char → Option (List Char)
  | 'v' :: '=' :: rest => if rest.contains ',' then none else some rest
  | _ => none

/-- Read salt and digest, which end the string. -/
def Encoded.readEnd (e : Encoded) : List (List Char) → Option Encoded
  | [] => some e
  | [s] => (salt? s).map fun s => { e with salt := some s }
  | [s, d] =>
      match salt? s, digest? d with
      | some s, some d => some { e with salt := some s, digest := some d }
      | _, _ => none
  | _ => none

/-- Read the parameters, where the next field has an equals sign, and the rest. -/
def Encoded.readParameters (e : Encoded) : List (List Char) → Option Encoded
  | [] => some e
  | field :: rest =>
      if field.contains '=' then
        (parameters? field).bind fun ps => { e with parameters := ps }.readEnd rest
      else e.readEnd (field :: rest)

/-- Read the string form. -/
def Encoded.read? (s : String) : Option Encoded :=
  match Text.splitAt '$' s.toList with
  | [] :: name :: rest =>
      if !isName name then none
      else
        let e : Encoded := ⟨String.ofList name, none, [], none, none⟩
        match rest with
        | [] => some e
        | field :: rest =>
            match versionField? field with
            | some v => (decimal? v).bind fun v => { e with version := some v }.readParameters rest
            | none => e.readParameters (field :: rest)
  | _ => none

/-- Write the string form of a digest made with a cost. -/
def Encoded.write (c : Digest.Argon2.Cost) (salt digest : Bytes) : String :=
  s!"$argon2id$v={Digest.Argon2.version}$m={c.memory},t={c.passes},p={c.lanes}$"
    ++ Text.Base64.text .standard salt ++ "$" ++ Text.Base64.text .standard digest

end Gatehouse.Password
