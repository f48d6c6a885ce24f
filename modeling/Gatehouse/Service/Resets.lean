import Gatehouse.Service.Setup

/-!
Password resets: a token is issued and recorded, and authorises one change of the password.
-/

namespace Gatehouse.Service

/-- What did not follow a change of a password. -/
inductive Warning where
  /-- The sessions of the user could not be ended. -/
  | sessionsKept
  deriving DecidableEq, Repr

def Warning.name : Warning → String
  | .sessionsKept => "session_invalidation_failed"

/-- A password was changed. -/
structure Outcome where
  warnings : List Warning := []
  deriving DecidableEq, Repr

def Outcome.isClean (o : Outcome) : Bool := o.warnings.isEmpty

def Outcome.warningsValue (o : Outcome) : Json.Value :=
  .list (o.warnings.map fun w => .text w.name)

def Outcome.toValue (o : Outcome) : Json.Value := .object [("warnings", o.warningsValue)]

variable {m : Type → Type} [Monad m]

/-- The record of a reset token that is issued now. -/
def resetFor (s : Service m) (u : Account.User) (token : String) (now : Timestamp)
    (draws : Draws) : Account.Reset where
  id := draws.record
  userId := u.id
  token := token
  expiresAt := expiry now s.tokens.resetLifetime
  createdAt := now
  usedAt := none

/-- Issue, record and deliver a reset token. -/
def requestReset (s : Service m) (email : String) (now : Timestamp) (draws : Draws) :
    m (Except Error String) := do
  match ← s.store.run (.userByEmail email) with
  | .error .notFound => pure (.error .userNotFound)
  | .error e => pure (.error (.ofStore e))
  | .ok u =>
      let token := s.tokens.issue .reset u.id u.email .user now.seconds draws.firstToken
      match ← s.store.run (.createReset (s.resetFor u token now draws)) with
      | .error e => pure (.error (.ofStore e))
      | .ok () =>
          s.deliver u token
          pure (.ok token)

/-- Consume a reset for a user with a new digest, then end the sessions of the user. The
second part is tried only, and what fails is told. -/
def commitReset (s : Service m) (r : Account.Reset) (u : Account.User) (now : Timestamp) :
    m (Except Error Outcome) := do
  match ← s.store.run (.consumeReset r.id u now) with
  | .error .notFound =>
      pure (.error (if r.isExpired now then .passwordResetExpired else .passwordResetUsed))
  | .error e => pure (.error (.ofStore e))
  | .ok () =>
      match ← s.store.run (.deleteUserSessions u.id) with
      | .ok _ => pure (.ok {})
      | .error _ => pure (.ok ⟨[.sessionsKept]⟩)

/-- Change a password with a reset token. The token is looked at now; hashing takes until
`later`, when the change is made. -/
def resetPassword (s : Service m) (token password : String) (now later : Timestamp)
    (salt : Bytes) : m (Except Error Outcome) := do
  match s.tokens.validate .reset now.seconds token with
  | .error e => pure (.error (.ofRejection e))
  | .ok claims =>
      match ← s.user claims.userId with
      | .error e => pure (.error e)
      | .ok u =>
          match ← s.store.run (.resetByToken token) with
          | .error .notFound => pure (.error .invalidToken)
          | .error e => pure (.error (.ofStore e))
          | .ok r =>
              if r.userId ≠ u.id then pure (.error .invalidToken)
              else if r.isExpired now then pure (.error .passwordResetExpired)
              else if r.isUsed then pure (.error .passwordResetUsed)
              else
                match Password.hash s.hashing.settings salt password with
                | .error e => pure (.error (.internal (.hashing e)))
                | .ok hash =>
                    s.commitReset r { u with passwordHash := hash, updatedAt := later } later

end Gatehouse.Service
