/-!
The roles of accounts.
-/

namespace Gatehouse.Account

inductive Role where
  | user
  | admin
  deriving DecidableEq, Repr

def Role.name : Role → String
  | .user => "user"
  | .admin => "admin"

def Role.ofName? : String → Option Role
  | "user" => some .user
  | "admin" => some .admin
  | _ => none

theorem Role.ofName?_name (r : Role) : ofName? r.name = some r := by
  cases r <;> rfl

theorem Role.name_of_ofName? {s : String} {r : Role} (h : ofName? s = some r) : r.name = s := by
  unfold ofName? at h
  split at h <;> simp_all [name] <;> subst h <;> rfl

/-- The text for a name that is no role. -/
def Role.unknownMessage (name : String) : String := "unknown role: " ++ name

end Gatehouse.Account
