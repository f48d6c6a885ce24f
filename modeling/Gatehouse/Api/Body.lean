import Gatehouse.Api.MediaType
import Gatehouse.Json.Record

/-!
The bodies of requests. A body has to be said to be JSON, must not be too long, and must hold
the record that is asked for; what stands behind the record is not looked at.
-/

namespace Gatehouse.Api

inductive BodyProblem where
  | notJson
  | tooLong
  | unreadable (fault : Json.Fault) (text : Bytes)
  deriving DecidableEq, Repr

def BodyProblem.message : BodyProblem → String
  | .notJson => "Expected request with `Content-Type: application/json`"
  | .tooLong => "Failed to buffer the request body: length limit exceeded"
  | .unreadable fault text =>
      (if fault.cause.isContent then
        "Failed to deserialize the JSON body into the target type: "
      else "Failed to parse the request body as JSON: ") ++ fault.message text

/-- The longest body, in bytes. -/
def maxBody : Nat := 2097152

/-- What a body holds, by name. -/
structure Form where
  title : String
  fields : List Json.Field

def Form.read (form : Form) (hs : Net.Headers) (body : Bytes) :
    Except BodyProblem Json.Entries :=
  if !saysJson hs then .error .notJson
  else if maxBody < body.length then .error .tooLong
  else match Json.record form.title form.fields body with
    | .ok (entries, _) => .ok entries
    | .error fault => .error (.unreadable fault body)

/-- A field that is a text; the reader has seen to it. -/
def field (es : Json.Entries) (name : String) : String := (es.text? name).getD ""

def Form.login : Form :=
  ⟨"LoginCredentials", [⟨"email", .text, false⟩, ⟨"password", .text, false⟩]⟩

def Form.register : Form :=
  ⟨"RegisterRequest",
    [⟨"email", .text, false⟩, ⟨"password", .text, false⟩, ⟨"role", .optionalText, true⟩]⟩

def Form.refreshToken : Form := ⟨"RefreshTokenRequest", [⟨"refresh_token", .text, false⟩]⟩

def Form.resetRequest : Form := ⟨"PasswordResetRequest", [⟨"email", .text, false⟩]⟩

def Form.resetPassword : Form :=
  ⟨"ResetPasswordRequest", [⟨"token", .text, false⟩, ⟨"new_password", .text, false⟩]⟩

end Gatehouse.Api
