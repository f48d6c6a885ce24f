import Gatehouse.Account.Registration
import Gatehouse.Api.Response
import Gatehouse.Service.Error

/-!
Error responses: a message, a stable code, and sometimes details. What is internal is not
told.
-/

namespace Gatehouse.Api

structure Problem where
  status : Nat
  code : String
  message : String
  details : Option Json.Value := none
  /-- Seconds after which the client may try again. -/
  retryAfter : Option Nat := none

namespace Problem

/-- Details by field; of several messages for one field the last is kept. -/
def fieldDetails (fields : List (String × String)) : Json.Value :=
  .sorted (fields.map fun f => (f.1, .text f.2))

def ofFields (fields : List (String × String)) : Problem :=
  ⟨400, "VALIDATION_FAILED", "Validation failed", some (fieldDetails fields), none⟩

/-- Fields that cannot be taken as they are. -/
def validation (problems : List Account.Problem) : Problem :=
  ofFields (problems.map fun p => (p.field, p.message))

def invalidRequest (message : String) : Problem :=
  ⟨400, "INVALID_REQUEST", message, none, none⟩

def unauthorized (message : String) : Problem :=
  ⟨401, "UNAUTHORIZED", message, none, none⟩

def forbidden : Problem := ⟨403, "FORBIDDEN", "Forbidden", none, none⟩

def rateLimited (seconds : Nat) : Problem :=
  ⟨429, "RATE_LIMIT_EXCEEDED", "Too many requests, please try again later",
    some (.object [("retry_after", .ofNat seconds)]), some seconds⟩

def internal : Problem := ⟨500, "INTERNAL_ERROR", "Internal server error", none, none⟩

/-- How a refusal of the service is told. -/
def ofService : Service.Error → Problem
  | .invalidCredentials =>
      ⟨401, "INVALID_CREDENTIALS", "Invalid email or password", none, none⟩
  | .userAlreadyExists =>
      ⟨409, "USER_EXISTS", "A user with this email already exists", none, none⟩
  | .userNotFound => ⟨404, "NOT_FOUND", "User not found", none, none⟩
  | .invalidToken => ⟨401, "INVALID_TOKEN", "Invalid token", none, none⟩
  | .tokenExpired => ⟨401, "TOKEN_EXPIRED", "Token expired", none, none⟩
  | .wrongTokenType =>
      ⟨401, "WRONG_TOKEN_TYPE", "Token cannot be used for this operation", none, none⟩
  | .invalidSession => ⟨401, "INVALID_SESSION", "Session is no longer valid", none, none⟩
  | .passwordResetExpired =>
      ⟨400, "RESET_EXPIRED", "Password reset request has expired", none, none⟩
  | .passwordResetUsed =>
      ⟨400, "TOKEN_USED", "Password reset token has already been used", none, none⟩
  | .internal _ => internal

def body (p : Problem) : Json.Value :=
  .object ([("error", .text p.message), ("code", .text p.code)]
    ++ (p.details.map fun d => ("details", d)).toList)

def response (p : Problem) : Response :=
  let r := Response.json p.status p.body
  match p.retryAfter with
  | none => r
  | some seconds => r.setHeader "retry-after" (toString seconds)

end Problem
end Gatehouse.Api
