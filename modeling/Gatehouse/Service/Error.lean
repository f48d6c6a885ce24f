import Gatehouse.Password.Hasher
import Gatehouse.Store.Error
import Gatehouse.Token.Signed

/-!
Why the service refuses. Failures of its parts that are no fault of the caller are internal.
-/

namespace Gatehouse.Service

/-- A part of the service that failed. -/
inductive Breakdown where
  | store (cause : Store.Error)
  | hashing (cause : Password.HashError)
  | signing (message : String)
  | other (message : String)
  deriving DecidableEq, Repr

def Breakdown.message : Breakdown → String
  | .store cause => cause.message
  | .hashing cause => cause.message
  | .signing message => "failed to sign token: " ++ message
  | .other message => message

inductive Error where
  /-- An unknown address or a wrong password. -/
  | invalidCredentials
  | userAlreadyExists
  | userNotFound
  | invalidToken
  | tokenExpired
  | wrongTokenType
  /-- No session stands behind a refresh token. -/
  | invalidSession
  | passwordResetExpired
  | passwordResetUsed
  | internal (cause : Breakdown)
  deriving DecidableEq, Repr

def Error.message : Error → String
  | .invalidCredentials => "invalid credentials"
  | .userAlreadyExists => "user already exists"
  | .userNotFound => "user not found"
  | .invalidToken => "invalid token"
  | .tokenExpired => "token expired"
  | .wrongTokenType => "wrong token type"
  | .invalidSession => "invalid session"
  | .passwordResetExpired => "password reset expired"
  | .passwordResetUsed => "password reset already used"
  | .internal cause => cause.message

def Error.ofRejection : Token.Rejection → Error
  | .expired => .tokenExpired
  | .invalid => .invalidToken
  | .wrongKind .. => .wrongTokenType

def Error.ofStore (e : Store.Error) : Error := .internal (.store e)

end Gatehouse.Service
