import Gatehouse.Api.Body
import Gatehouse.Api.Guard
import Gatehouse.RateLimit.Caller
import Gatehouse.Service.Accounts
import Gatehouse.Service.Resets

/-!
What the routes do behind their guards.
-/

namespace Gatehouse.Api

structure Request where
  method : String
  target : String
  headers : Net.Headers := []
  body : Bytes := []
  peer : Option Net.Endpoint := none

/-- The time and the draws of one request: what takes long ends `later`. -/
structure Moment where
  now : Timestamp
  later : Timestamp
  draws : Service.Draws
  suffix : String

/-- A response, and the address for which a reset is to be issued behind it. -/
structure Reply where
  response : Response
  reset : Option String := none

def Reply.ofProblem (p : Problem) : Reply := ⟨p.response, none⟩

def Reply.json (status : Nat) (v : Json.Value) : Reply := ⟨Response.json status v, none⟩

def message (s : String) : String × Json.Value := ("message", .text s)

/-- The client as the headers describe it. -/
def client (r : Request) : Account.Client :=
  ⟨(r.headers.text? "user-agent").getD "", RateLimit.clientAddress r.headers r.peer⟩

variable {m : Type → Type} [Monad m]

/-- Read the body, then go on. -/
def withBody (r : Request) (form : Form) (next : Json.Entries → m Reply) : m Reply :=
  match form.read r.headers r.body with
  | .error p => pure (.ofProblem (.invalidRequest p.message))
  | .ok es => next es

/-- Tell what the service answers. -/
def told {α : Type} (answer : Except Service.Error α) (reply : α → Reply) : Reply :=
  match answer with
  | .error e => .ofProblem (.ofService e)
  | .ok a => reply a

def healthy : Reply :=
  .json 200 (.object [("service", .text "auth-service"), ("status", .text "ok")])

def register (s : Service m) (at_ : Moment) (r : Request) : m Reply :=
  withBody r .register fun es => do
    let email := field es "email"
    let password := field es "password"
    match Account.checkRegistration email password (es.text? "role") with
    | .error problems => pure (.ofProblem (.validation problems))
    | .ok role =>
        let answer ← s.register email password role at_.now at_.draws
        pure (told answer fun u => .json 201
          (.object [message "User registered successfully", ("user_id", .text u.id.text)]))

def login (s : Service m) (at_ : Moment) (r : Request) : m Reply :=
  withBody r .login fun es => do
    let answer ← s.login (field es "email") (field es "password") (client r) at_.now at_.draws
    pure (told answer fun p => .json 200 p.toValue)

def refreshToken (s : Service m) (at_ : Moment) (r : Request) : m Reply :=
  withBody r .refreshToken fun es => do
    let answer ← s.refresh (field es "refresh_token") (client r) at_.now at_.draws
    pure (told answer fun p => .json 200 p.toValue)

def logout (s : Service m) (r : Request) : m Reply :=
  withBody r .refreshToken fun es => do
    let answer ← s.logout (field es "refresh_token")
    pure (told answer fun _ => .json 200 (.object [message "Logged out successfully"]))

/-- The answer does not depend on whether there is an account: the reset is issued behind
it. -/
def requestReset (r : Request) : m Reply :=
  withBody r .resetRequest fun es => do
    let email := field es "email"
    match Account.Email.check email with
    | .error p => pure (.ofProblem (.validation [.email p]))
    | .ok () =>
        pure ⟨Response.json 200 (.object [message
          "If an account exists for this email, password reset instructions have been sent"]),
          some email⟩

def resetPassword (s : Service m) (at_ : Moment) (r : Request) : m Reply :=
  withBody r .resetPassword fun es => do
    let password := field es "new_password"
    match Account.checkPassword password with
    | .error p => pure (.ofProblem (.validation [.newPassword p]))
    | .ok () =>
        let answer ← s.resetPassword (field es "token") password at_.now at_.later at_.draws.salt
        pure (told answer fun o => .json 200
          (.object [message "Password has been reset successfully",
            ("warnings", o.warningsValue)]))

def logoutAll (s : Service m) (c : Caller) : m Reply := do
  let answer ← s.logoutAll c.userId
  pure (told answer fun n => .json 200
    (.object [message "Logged out from all sessions", ("sessions_revoked", .ofNat n)]))

def profile (s : Service m) (c : Caller) : m Reply := do
  let answer ← s.user c.userId
  pure (told answer fun u => .json 200
    (.object [("created_at", Account.timeValue u.createdAt), ("email", .text u.email),
      ("role", .text u.role.name), ("user_id", .text u.id.text)]))

def adminUsers (c : Caller) : Reply :=
  .json 200 (.object [("admin_id", .text c.userId.text), ("email", .text c.email),
    message "Admin access granted"])

end Gatehouse.Api
