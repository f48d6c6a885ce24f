import Gatehouse.Service.Error
import Gatehouse.Store.Op

/-!
What the service works with: a store, the settings of tokens and of hashing, and a way to
deliver reset tokens. Every operation is given the time and the random draws that it uses.
-/

namespace Gatehouse

/-- The parts of the service. -/
structure Service (m : Type → Type) where
  store : Store m
  tokens : Token.Config
  hashing : Password.Hasher
  /-- Deliver a reset token to its user. What becomes of it is not the service's concern. -/
  deliver : Account.User → String → m Unit

namespace Service

/-- Random draws for one operation: the identifiers of tokens, of a record, and a salt. -/
structure Draws where
  firstToken : Uuid
  secondToken : Uuid
  record : Uuid
  salt : Bytes
  deriving DecidableEq, Repr

/-- An access token with its lifetime in seconds, and the refresh token that renews it. -/
structure Pair where
  accessToken : String
  refreshToken : String
  expiresIn : Nat
  deriving DecidableEq, Repr

def Pair.toValue (p : Pair) : Json.Value :=
  .object [
    ("access_token", .text p.accessToken),
    ("refresh_token", .text p.refreshToken),
    ("expires_in", .ofNat p.expiresIn)]

/-- The longest lifetime of a record, a hundred years of 365 days. -/
def maxLifetime : Nat := 100 * 365 * 24 * 60 * 60

/-- When a record expires that is made now. -/
def expiry (now : Timestamp) (lifetime : Nat) : Timestamp :=
  now.addSeconds (min lifetime maxLifetime)

variable {m : Type → Type} [Monad m]

/-- The user of an identifier. -/
def user (s : Service m) (id : Uuid) : m (Except Error Account.User) := do
  match ← s.store.run (.userById id) with
  | .ok u => pure (.ok u)
  | .error .notFound => pure (.error .userNotFound)
  | .error e => pure (.error (.ofStore e))

/-- The pair of tokens for a user. -/
def pairFor (s : Service m) (u : Account.User) (now : Timestamp) (draws : Draws) : Pair where
  accessToken := s.tokens.issue .access u.id u.email u.role now.seconds draws.firstToken
  refreshToken := s.tokens.issue .refresh u.id u.email u.role now.seconds draws.secondToken
  expiresIn := s.tokens.accessLifetime

/-- The session behind a refresh token that is issued now. -/
def sessionFor (s : Service m) (u : Account.User) (client : Account.Client) (token : String)
    (now : Timestamp) (draws : Draws) : Account.Session where
  id := draws.record
  userId := u.id
  refreshToken := token
  userAgent := client.userAgent
  clientIp := client.ip
  expiresAt := expiry now s.tokens.refreshLifetime
  createdAt := now

end Service
end Gatehouse
