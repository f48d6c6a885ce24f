import Gatehouse.Account.Email
import Gatehouse.Account.Role

/-!
The fields that a client fills in, and what may be wrong with each. A registration reports
every field that fails, in the order of the form.
-/

namespace Gatehouse.Account

inductive PasswordProblem where
  | missing
  | tooShort
  | tooLong
  deriving DecidableEq, Repr

def PasswordProblem.message : PasswordProblem → String
  | .missing => "Password is required"
  | .tooShort => "Password must be at least 8 characters long"
  | .tooLong => "Password must be at most 100 characters long"

/-- Passwords are of eight to a hundred characters. -/
def checkPassword (password : String) : Except PasswordProblem Unit :=
  if password.isEmpty then .error .missing
  else if password.length < 8 then .error .tooShort
  else if 100 < password.length then .error .tooLong
  else .ok ()

/-- A field that cannot be taken as it is. -/
inductive Problem where
  | email (cause : Email.Problem)
  | password (cause : PasswordProblem)
  | newPassword (cause : PasswordProblem)
  | role
  deriving DecidableEq, Repr

def Problem.field : Problem → String
  | .email _ => "email"
  | .password _ => "password"
  | .newPassword _ => "new_password"
  | .role => "role"

def Problem.message : Problem → String
  | .email cause => cause.message
  | .password cause => cause.message
  | .newPassword cause => cause.message
  | .role => "Role must be one of: user, admin"

/-- The role asked for; an empty name asks for none. -/
def requestedRole (name : Option String) : Except Problem (Option Role) :=
  match name with
  | none | some "" => .ok none
  | some name =>
      match Role.ofName? name with
      | some r => .ok (some r)
      | none => .error .role

/-- The problem that a check found, as a list. -/
def found {ε α : Type} (wrap : ε → Problem) : Except ε α → List Problem
  | .ok _ => []
  | .error cause => [wrap cause]

/-- Check a registration; the answer is the role asked for. -/
def checkRegistration (email password : String) (role : Option String) :
    Except (List Problem) (Option Role) :=
  let asked := requestedRole role
  let problems := found .email (Email.check email) ++ found .password (checkPassword password)
    ++ found id asked
  match asked with
  | .ok r => if problems.isEmpty then .ok r else .error problems
  | .error _ => .error problems

end Gatehouse.Account
