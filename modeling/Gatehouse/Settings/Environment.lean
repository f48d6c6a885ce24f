import Gatehouse.Bounds
import Gatehouse.Text.Integer

/-!
The environment of the process, and numbers in it. A number that is missing or cannot be read
is replaced by its default.
-/

namespace Gatehouse.Settings

abbrev Environment := List (String × String)

def Environment.get? (env : Environment) (name : String) : Option String := env.lookup name

/-- A number up to a bound. -/
def Environment.number (env : Environment) (name : String) (bound default : Nat) : Nat :=
  ((env.get? name).bind (Text.natural? bound)).getD default

/-- A number of 64 bits that is not zero; a zero counts as missing. -/
def Environment.positive (env : Environment) (name : String) (default : Nat) : Nat :=
  (((env.get? name).bind (Text.natural? Bounds.max64)).filter (0 < ·)).getD default

end Gatehouse.Settings
