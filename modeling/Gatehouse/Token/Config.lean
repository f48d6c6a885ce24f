import Gatehouse.Token.Claims
import Gatehouse.Text.Quoted

/-!
What tokens are signed with, whom they name, and how long they live.
-/

namespace Gatehouse.Token

/-- Lifetimes are in seconds. -/
structure Config where
  secret : String
  issuer : String := "resume_generator"
  audience : String := "resume_generator_users"
  accessLifetime : Nat := 900
  refreshLifetime : Nat := 604800
  resetLifetime : Nat := 3600
  deriving DecidableEq, Repr

def Config.lifetime (c : Config) : Kind → Nat
  | .access => c.accessLifetime
  | .refresh => c.refreshLifetime
  | .reset => c.resetLifetime

/-- A secret is needed to sign. -/
def Config.isUsable (c : Config) : Bool := !c.secret.isEmpty

def Config.missingSecret : String := "JWT secret is required"

/-- The settings as a text that does not give the secret away. -/
def Config.description (c : Config) : String :=
  "JwtConfig \x7b secret: \"<redacted>\", issuer: " ++ Text.quoted c.issuer
    ++ ", audience: " ++ Text.quoted c.audience
    ++ s!", access_token_expiry: {c.accessLifetime}"
    ++ s!", refresh_token_expiry: {c.refreshLifetime}"
    ++ s!", reset_token_expiry: {c.resetLifetime} \x7d"

/-- A short tag for a token that does not give it away. -/
def fingerprint (token : String) : String :=
  String.ofList ((Uuid.named Uuid.oidSpace (Text.utf8 token)).digits.take 8)

end Gatehouse.Token
