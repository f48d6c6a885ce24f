import Gatehouse.Api.Problem
import Gatehouse.Net.Headers

/-!
Who may pass: callers with a bearer token, callers whose access token is valid, and callers of
a role.
-/

namespace Gatehouse.Api

/-- Who is calling, as the access token says. -/
structure Caller where
  userId : Uuid
  email : String
  role : Account.Role
  deriving DecidableEq, Repr

inductive BearerProblem where
  | missing
  | malformed
  | otherScheme
  deriving DecidableEq, Repr

def BearerProblem.message : BearerProblem → String
  | .missing => "Missing Authorization header"
  | .malformed => "Malformed Authorization header"
  | .otherScheme => "Authorization header must use the Bearer scheme"

def scheme : List Char := "Bearer ".toList

/-- The token behind `Bearer` in the first header for authorization. It is not empty and has
no white space in it. -/
def bearerToken (hs : Net.Headers) : Except BearerProblem String :=
  match hs.first? "authorization" with
  | none => .error .missing
  | some value =>
      match Net.valueText? value with
      | none => .error .malformed
      | some text =>
          if scheme.isPrefixOf text.toList then
            let token := text.toList.drop scheme.length
            if token.isEmpty || token.any Text.isBlank then .error .malformed
            else .ok (String.ofList token)
          else .error .otherScheme

def Caller.ofClaims (c : Token.Claims) : Caller := ⟨c.userId, c.email, c.role⟩

/-- The caller that the bearer token of a request names at a second. -/
def authenticate (tokens : Token.Config) (now : Int) (hs : Net.Headers) :
    Except Problem Caller :=
  match bearerToken hs with
  | .error p => .error (.unauthorized p.message)
  | .ok token =>
      match tokens.validate .access now token with
      | .error r => .error (.ofService (.ofRejection r))
      | .ok c => .ok (.ofClaims c)

/-- The caller, who must be there. -/
def requireCaller (caller : Option Caller) : Except Problem Caller :=
  match caller with
  | none => .error (.unauthorized "Authentication required")
  | some c => .ok c

/-- Only callers of a role pass. -/
def requireRole (role : Account.Role) (caller : Option Caller) : Except Problem Caller :=
  match requireCaller caller with
  | .error p => .error p
  | .ok c => if c.role = role then .ok c else .error .forbidden

end Gatehouse.Api
