import Gatehouse.Bounds
import Gatehouse.Digest.Sha256
import Gatehouse.Text.Base64
import Gatehouse.Text.Cut
import Gatehouse.Token.Config
import Gatehouse.Token.Header

/-!
Signed tokens: header and claims in base 64, and a keyed digest of both. A token is accepted
when its signature is the one that the secret gives, its claims can be read, the time lies
between its bounds, issuer, audience and subject are right, and it is of the kind asked for.
-/

namespace Gatehouse.Token

inductive Rejection where
  | expired
  | invalid
  | wrongKind (expected actual : Kind)
  deriving DecidableEq, Repr

def Rejection.message : Rejection → String
  | .expired => "token expired"
  | .invalid => "invalid token"
  | .wrongKind expected actual =>
      s!"wrong token type: expected {expected.name}, got {actual.name}"

/-- The largest time, in seconds. -/
def maxTime : Int := Bounds.maxSigned

def encodeJson (v : Json.Value) : List Char :=
  Text.Base64.encode .urlSafe (Text.utf8 v.compact)

/-- The signature of a message, as the last part of a token. -/
def signature (secret : String) (message : List Char) : List Char :=
  Text.Base64.encode .urlSafe
    (Digest.Sha256.hmac (Text.utf8 secret) (Text.utf8 (String.ofList message)))

/-- The token that says the claims. -/
def sign (secret : String) (c : Claims) : String :=
  let message := encodeJson Header.value ++ '.' :: encodeJson c.toValue
  String.ofList (message ++ '.' :: signature secret message)

/-- The claims of a token issued at a second. Reset tokens carry the role of plain users. -/
def Config.claims (config : Config) (kind : Kind) (userId : Uuid) (email : String)
    (role : Account.Role) (now : Int) (id : Uuid) : Claims where
  userId := userId
  email := email
  role := if kind = .reset then .user else role
  kind := kind
  issuer := config.issuer
  subject := userId.text
  audience := config.audience
  expires := min (now + min (config.lifetime kind : Int) maxTime) maxTime
  notBefore := now
  issued := now
  id := id

/-- Issue a token. -/
def Config.issue (config : Config) (kind : Kind) (userId : Uuid) (email : String)
    (role : Account.Role) (now : Int) (id : Uuid) : String :=
  sign config.secret (config.claims kind userId email role now id)

/-- The claims of a token whose signature is right. -/
def verified? (secret token : String) : Option Bytes :=
  match Text.cutLast '.' token.toList with
  | none => none
  | some (message, signed) =>
      match Text.cutLast '.' message with
      | none => none
      | some (header, claims) =>
          match Text.Base64.decode? .urlSafe header with
          | none => none
          | some header =>
              if Header.algorithm? header = some Header.algorithm
                  ∧ signed = signature secret message then
                Text.Base64.decode? .urlSafe claims
              else none

/-- Claims are an object, not a list. -/
def claims? (text : Bytes) : Option Claims :=
  if (Json.skipSpace text).head? = some 123 then Claims.read? text else none

/-- Check the claims of a signed token. -/
def Config.checkClaims (config : Config) (now : Int) (c : Claims) : Except Rejection Claims :=
  if c.expires < 0 ∨ c.notBefore < 0 then .error .invalid
  else if c.expires < now then .error .expired
  else if now < c.notBefore ∨ c.issuer ≠ config.issuer ∨ c.audience ≠ config.audience
      ∨ c.subject ≠ c.userId.text then .error .invalid
  else .ok c

/-- The claims of a token of any kind at a second. -/
def Config.decode (config : Config) (now : Int) (token : String) : Except Rejection Claims :=
  match (verified? config.secret token).bind claims? with
  | none => .error .invalid
  | some c => config.checkClaims now c

/-- The claims of a token of a kind at a second. -/
def Config.validate (config : Config) (kind : Kind) (now : Int) (token : String) :
    Except Rejection Claims :=
  match config.decode now token with
  | .error e => .error e
  | .ok c => if c.kind = kind then .ok c else .error (.wrongKind kind c.kind)

end Gatehouse.Token
