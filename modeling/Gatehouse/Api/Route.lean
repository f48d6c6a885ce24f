/-!
The routes: their paths, their methods, and what guards them.
-/

namespace Gatehouse.Api

inductive Route where
  | health
  | register
  | login
  | refreshToken
  | logout
  | requestReset
  | resetPassword
  | logoutAll
  | profile
  | adminUsers
  deriving DecidableEq, Repr

/-- What stands before a route. -/
inductive Access where
  | open
  /-- Requests are counted. -/
  | limited
  /-- A valid access token is needed. -/
  | authenticated
  /-- A valid access token of an administrator is needed. -/
  | administrators
  deriving DecidableEq, Repr

def Route.access : Route → Access
  | .health => .open
  | .register | .login | .refreshToken | .logout | .requestReset | .resetPassword => .limited
  | .logoutAll | .profile => .authenticated
  | .adminUsers => .administrators

/-- The path, for most routes below that of the interface. -/
def Route.path : Route → String
  | .health => "/health"
  | .register => "/register"
  | .login => "/login"
  | .refreshToken => "/refresh-token"
  | .logout => "/logout"
  | .requestReset => "/request-password-reset"
  | .resetPassword => "/reset-password"
  | .logoutAll => "/logout-all"
  | .profile => "/user/profile"
  | .adminUsers => "/admin/users"

/-- The routes of the interface. -/
def Route.versioned : List Route :=
  [.register, .login, .refreshToken, .logout, .requestReset, .resetPassword, .logoutAll,
    .profile, .adminUsers]

/-- The path of the interface. -/
def base : String := "/api/v1"

/-- The route of a path. -/
def Route.ofPath? (path : String) : Option Route :=
  if path = Route.health.path then some .health
  else Route.versioned.find? fun r => path = base ++ r.path

/-- The route only reads. -/
def Route.isRead : Route → Bool
  | .health | .profile | .adminUsers => true
  | _ => false

/-- The route takes a method. What reads can also be asked for its headers only. -/
def Route.accepts (r : Route) (method : String) : Bool :=
  if r.isRead then method == "GET" || method == "HEAD" else method == "POST"

def Route.allow (r : Route) : String := if r.isRead then "GET,HEAD" else "POST"

end Gatehouse.Api
