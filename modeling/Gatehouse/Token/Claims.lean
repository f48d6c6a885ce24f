import Gatehouse.Account.Role
import Gatehouse.Json.Record
import Gatehouse.Uuid

/-!
What a token says: whose it is, what it is for, who issued it to whom, and when it holds.
-/

namespace Gatehouse.Token

open Account (Role)

/-- What a token is for. -/
inductive Kind where
  | access
  | refresh
  | reset
  deriving DecidableEq, Repr

def Kind.name : Kind → String
  | .access => "access"
  | .refresh => "refresh"
  | .reset => "reset"

def Kind.ofName? : String → Option Kind
  | "access" => some .access
  | "refresh" => some .refresh
  | "reset" => some .reset
  | _ => none

theorem Kind.ofName?_name (k : Kind) : ofName? k.name = some k := by
  cases k <;> rfl

/-- Times are in seconds since the beginning of 1970. -/
structure Claims where
  userId : Uuid
  email : String
  role : Role
  kind : Kind
  issuer : String
  subject : String
  audience : String
  expires : Int
  notBefore : Int
  issued : Int
  id : Uuid
  deriving DecidableEq, Repr

/-- The claims as an object. -/
def Claims.toValue (c : Claims) : Json.Value :=
  .object [
    ("user_id", .text c.userId.text),
    ("email", .text c.email),
    ("role", .text c.role.name),
    ("token_type", .text c.kind.name),
    ("iss", .text c.issuer),
    ("sub", .text c.subject),
    ("aud", .text c.audience),
    ("exp", .ofInt c.expires),
    ("nbf", .ofInt c.notBefore),
    ("iat", .ofInt c.issued),
    ("jti", .text c.id.text)]

def Claims.fields : List Json.Field := [
  ⟨"user_id", .text, false⟩,
  ⟨"email", .text, false⟩,
  ⟨"role", .name, false⟩,
  ⟨"token_type", .name, false⟩,
  ⟨"iss", .text, false⟩,
  ⟨"sub", .text, false⟩,
  ⟨"aud", .text, false⟩,
  ⟨"exp", .integer, false⟩,
  ⟨"nbf", .integer, false⟩,
  ⟨"iat", .integer, false⟩,
  ⟨"jti", .text, false⟩]

def Claims.ofEntries? (es : Json.Entries) : Option Claims := do
  return {
    userId := ← (← es.text? "user_id") |> Uuid.read?
    email := ← es.text? "email"
    role := ← (← es.text? "role") |> Role.ofName?
    kind := ← (← es.text? "token_type") |> Kind.ofName?
    issuer := ← es.text? "iss"
    subject := ← es.text? "sub"
    audience := ← es.text? "aud"
    expires := ← es.integer? "exp"
    notBefore := ← es.integer? "nbf"
    issued := ← es.integer? "iat"
    id := ← (← es.text? "jti") |> Uuid.read? }

/-- Read claims from a JSON text. -/
def Claims.read? (text : Bytes) : Option Claims :=
  (Json.whole (Json.record "Claims" Claims.fields) text).bind Claims.ofEntries?

end Gatehouse.Token
