import Gatehouse.Service.Setup

/-!
Registering, and opening, renewing and ending sessions.
-/

namespace Gatehouse.Service

variable {m : Type → Type} [Monad m]

/-- Create an account; its role is that of plain users unless another is given. -/
def register (s : Service m) (email password : String) (role : Option Account.Role)
    (now : Timestamp) (draws : Draws) : m (Except Error Account.User) := do
  match ← s.store.run (.userByEmail email) with
  | .ok _ => pure (.error .userAlreadyExists)
  | .error .notFound =>
      match Password.hash s.hashing.settings draws.salt password with
      | .error e => pure (.error (.internal (.hashing e)))
      | .ok hash =>
          let u : Account.User := ⟨draws.record, email, hash, role.getD .user, now, now⟩
          match ← s.store.run (.createUser u) with
          | .ok () => pure (.ok u)
          | .error .conflict => pure (.error .userAlreadyExists)
          | .error e => pure (.error (.ofStore e))
  | .error e => pure (.error (.ofStore e))

/-- Exchange address and password for a pair of tokens, and open a session. An unknown address
and a wrong password are answered alike, and take as long. -/
def login (s : Service m) (email password : String) (client : Account.Client)
    (now : Timestamp) (draws : Draws) : m (Except Error Pair) := do
  match ← s.store.run (.userByEmail email) with
  | .error .notFound =>
      match s.hashing.verifyDecoy password with
      | .error e => pure (.error (.internal (.hashing e)))
      | .ok () => pure (.error .invalidCredentials)
  | .error e => pure (.error (.ofStore e))
  | .ok u =>
      if !Password.verify password u.passwordHash then pure (.error .invalidCredentials)
      else
        let pair := s.pairFor u now draws
        let session := s.sessionFor u client pair.refreshToken now draws
        match ← s.store.run (.createSession session) with
        | .ok () => pure (.ok pair)
        | .error e => pure (.error (.ofStore e))

/-- The decoy makes no difference to the answer. -/
theorem login_eq (s : Service m) (email password : String) (client : Account.Client)
    (now : Timestamp) (draws : Draws) :
    s.login email password client now draws = (do
      match ← s.store.run (.userByEmail email) with
      | .error .notFound => pure (.error .invalidCredentials)
      | .error e => pure (.error (.ofStore e))
      | .ok u =>
          if !Password.verify password u.passwordHash then pure (.error .invalidCredentials)
          else
            let pair := s.pairFor u now draws
            let session := s.sessionFor u client pair.refreshToken now draws
            match ← s.store.run (.createSession session) with
            | .ok () => pure (.ok pair)
            | .error e => pure (.error (.ofStore e))) := by
  simp only [login, Password.Hasher.verifyDecoy_eq]

/-- Replace a session by a new one with new tokens. -/
def renew (s : Service m) (u : Account.User) (session : Account.Session)
    (client : Account.Client) (now : Timestamp) (draws : Draws) : m (Except Error Pair) := do
  let pair := s.pairFor u now draws
  match ← s.store.run (.rotateSession session.id
      (s.sessionFor u client pair.refreshToken now draws)) with
  | .ok () => pure (.ok pair)
  | .error .notFound => pure (.error .invalidSession)
  | .error e => pure (.error (.ofStore e))

/-- Exchange a refresh token for a new pair. The session of the old token is replaced, so a
refresh token is accepted at most once. -/
def refresh (s : Service m) (token : String) (client : Account.Client) (now : Timestamp)
    (draws : Draws) : m (Except Error Pair) := do
  match s.tokens.validate .refresh now.seconds token with
  | .error e => pure (.error (.ofRejection e))
  | .ok claims =>
      match ← s.user claims.userId with
      | .error e => pure (.error e)
      | .ok u =>
          match ← s.store.run (.sessionByToken token) with
          | .error .notFound => pure (.error .invalidSession)
          | .error e => pure (.error (.ofStore e))
          | .ok session =>
              if session.userId ≠ u.id then pure (.error .invalidSession)
              else if session.isExpired now then
                let _ ← s.store.run (.deleteSession session.id)
                pure (.error .tokenExpired)
              else s.renew u session client now draws

/-- End the session behind a refresh token, if there is one. -/
def logout (s : Service m) (token : String) : m (Except Error Unit) := do
  match ← s.store.run (.sessionByToken token) with
  | .error .notFound => pure (.ok ())
  | .error e => pure (.error (.ofStore e))
  | .ok session =>
      match ← s.store.run (.deleteSession session.id) with
      | .ok () | .error .notFound => pure (.ok ())
      | .error e => pure (.error (.ofStore e))

/-- End every session of a user, and count them. -/
def logoutAll (s : Service m) (userId : Uuid) : m (Except Error Nat) := do
  match ← s.store.run (.deleteUserSessions userId) with
  | .ok n => pure (.ok n)
  | .error e => pure (.error (.ofStore e))

/-- The claims of an access token. -/
def validateAccess (s : Service m) (token : String) (now : Timestamp) :
    Except Error Token.Claims :=
  match s.tokens.validate .access now.seconds token with
  | .ok c => .ok c
  | .error e => .error (.ofRejection e)

end Gatehouse.Service
