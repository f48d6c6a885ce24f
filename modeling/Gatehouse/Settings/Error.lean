import Gatehouse.Password.Cost
import Gatehouse.Store.Error

/-!
Why the settings cannot be used.
-/

namespace Gatehouse.Settings

inductive Error where
  | badAddress (text : String)
  | database (cause : Store.DatabaseError)
  | secretMissing
  | secretBlank
  | hashing (cause : Password.SettingsError)
  deriving DecidableEq, Repr

def Error.message : Error → String
  | .badAddress text => s!"Invalid BIND_ADDRESS: {text}: invalid socket address syntax"
  | .database cause => cause.message
  | .secretMissing => "JWT_SECRET environment variable not set"
  | .secretBlank => "JWT_SECRET must not be empty"
  | .hashing cause => cause.message

end Gatehouse.Settings
