import Gatehouse.Account.Registration
import Gatehouse.Json.Value
import Gatehouse.Proofs.EmailGrammar

/-!
The form of a registration. Each field is refused for reasons of its own, of which one applies at
most. The form is refused if and only if some field is, and then each field that is refused is
told once, with its reason; as the members of an object, none of them is lost.
-/

namespace Gatehouse.Json

section
variable {k : String} {v : Value} {ms got : List (String × Value)}

/-- An entry of another key than those that are there takes the place of none. -/
theorem insertEntry_perm (new : k ∉ ms.map Prod.fst) :
    (insertEntry k v ms).Perm ((k, v) :: ms) := by
  induction ms with
  | nil => exact .refl _
  | cons m ms ih =>
      rw [List.map_cons, List.mem_cons, not_or] at new
      rw [insertEntry, if_neg new.1]
      split
      · exact .refl _
      · exact ((ih new.2).cons m).trans (.swap ..)

theorem foldl_insertEntry_perm (once : ((ms ++ got).map Prod.fst).Nodup) :
    (ms.foldl (fun acc m => insertEntry m.1 m.2 acc) got).Perm (ms ++ got) := by
  induction ms generalizing got with
  | nil => exact .refl _
  | cons m ms ih =>
      rw [List.cons_append, List.map_cons, List.nodup_cons] at once
      have new : m.1 ∉ got.map Prod.fst := fun h =>
        once.1 (List.map_append ▸ List.mem_append_right _ h)
      have inserted : (insertEntry m.1 m.2 got).Perm (m :: got) := insertEntry_perm new
      have all : (ms ++ insertEntry m.1 m.2 got).Perm (m :: (ms ++ got)) :=
        (inserted.append_left ms).trans List.perm_middle
      have apart : ((m :: (ms ++ got)).map Prod.fst).Nodup := List.nodup_cons.2 once
      exact (ih ((all.map _).nodup_iff.2 apart)).trans all

/-- Where no key stands twice, an object that is sorted has all the members. -/
theorem sorted_eq_object (once : (ms.map Prod.fst).Nodup) :
    ∃ ms', Value.sorted ms = .object ms' ∧ ms'.Perm ms := by
  refine ⟨_, rfl, ?_⟩
  rw [← List.append_nil ms] at once
  exact (foldl_insertEntry_perm once).trans (.of_eq (List.append_nil ms))

end

end Gatehouse.Json

namespace Gatehouse.Account

/-- What makes a password be refused for a reason. -/
def PasswordProblem.Applies (password : String) : PasswordProblem → Prop
  | .missing => password = ""
  | .tooShort => password ≠ "" ∧ password.length < 8
  | .tooLong => 100 < password.length

/-- A field of a registration is refused with a text. -/
inductive Fault (email password : String) (role : Option String) : String → String → Prop where
  | email {p : Email.Problem} (applies : p.Applies email) :
      Fault email password role "email" p.message
  | password {p : PasswordProblem} (applies : p.Applies password) :
      Fault email password role "password" p.message
  | role {name : String} (asked : role = some name) (other : name ∉ ["", "user", "admin"]) :
      Fault email password role "role" "Role must be one of: user, admin"

section
variable {email password : String} {role : Option String}

theorem checkPassword_eq_error_iff {p : PasswordProblem} :
    checkPassword password = .error p ↔ p.Applies password := by
  rw [checkPassword]
  split_ifs with empty short long
  · have empty := String.isEmpty_iff.1 empty
    cases p <;> simp [PasswordProblem.Applies, empty]
  · have filled := mt String.isEmpty_iff.2 empty
    cases p <;> simp [PasswordProblem.Applies, filled, short]
    omega
  · have filled := mt String.isEmpty_iff.2 empty
    cases p <;> simp [PasswordProblem.Applies, filled, short, long]
  · have filled := mt String.isEmpty_iff.2 empty
    cases p <;> simp [PasswordProblem.Applies, filled, short, long]

theorem ofName?_eq_none_iff {name : String} :
    Role.ofName? name = none ↔ name ∉ ["user", "admin"] := by
  constructor
  · intro unknown named
    rcases List.mem_pair.1 named with rfl | rfl <;> cases unknown
  · intro other
    cases known : Role.ofName? name with
    | none => rfl
    | some r =>
        have named := Role.name_of_ofName? known
        cases r <;> exact absurd (List.mem_pair.2 (by simp [← named, Role.name])) other

theorem requestedRole_eq_error_iff {p : Problem} : requestedRole role = .error p ↔
    p = .role ∧ ∃ name, role = some name ∧ name ∉ ["", "user", "admin"] := by
  unfold requestedRole
  split
  next => simp
  next => simp
  next name filled =>
    have other : name ∉ ["", "user", "admin"] ↔ Role.ofName? name = none := by
      rw [ofName?_eq_none_iff, List.mem_cons, not_or, and_iff_right filled]
    simp only [Option.some.injEq, exists_eq_left', other]
    cases Role.ofName? name with
    | some r => simp
    | none => simp [eq_comm]

theorem role_of_requestedRole {asked : Option Role} (h : requestedRole role = .ok asked) :
    role = some (asked.getD .user).name ∨ role.getD "" = "" ∧ asked.getD .user = .user := by
  unfold requestedRole at h
  split at h
  next =>
    cases h
    exact .inr ⟨rfl, rfl⟩
  next =>
    cases h
    exact .inr ⟨rfl, rfl⟩
  next name filled =>
    split at h
    next r known =>
      cases h
      exact .inl (congrArg some (Role.name_of_ofName? known).symm)
    next => cases h

end

section
variable {ε α : Type} {wrap : ε → Problem} {checked : Except ε α}

theorem mem_found {p : Problem} :
    p ∈ found wrap checked ↔ ∃ cause, checked = .error cause ∧ p = wrap cause := by
  cases checked with
  | ok a => exact iff_of_false nofun nofun
  | error e => simp [found]

theorem fields_found {name : String} (own : ∀ cause, (wrap cause).field = name) :
    ((found wrap checked).map Problem.field).Sublist [name] := by
  cases checked with
  | ok a => exact List.nil_sublist _
  | error e =>
      rw [found, List.map_singleton, own]

end

/-- What is wrong with a registration, in the order of the form. -/
def problems (email password : String) (role : Option String) : List Problem :=
  found .email (Email.check email) ++ found .password (checkPassword password)
    ++ found id (requestedRole role)

section
variable (email password : String) (role : Option String)

theorem nodup_problems : ((problems email password role).map Problem.field).Nodup := by
  have asked : ((found id (requestedRole role)).map Problem.field).Sublist ["role"] := by
    cases h : requestedRole role with
    | ok r => exact List.nil_sublist _
    | error p =>
        rw [(requestedRole_eq_error_iff.1 h).1]
        exact .refl _
  have address : ((found .email (Email.check email)).map Problem.field).Sublist ["email"] :=
    fields_found fun _ => rfl
  have secret : ((found .password (checkPassword password)).map Problem.field).Sublist
      ["password"] := fields_found fun _ => rfl
  have fields : ((problems email password role).map Problem.field).Sublist
      (["email"] ++ ["password"] ++ ["role"]) := by
    rw [problems, List.map_append, List.map_append]
    exact (address.append secret).append asked
  exact fields.nodup (by decide)

theorem mem_problems (name text : String) :
    (∃ p ∈ problems email password role, p.field = name ∧ p.message = text) ↔
      Fault email password role name text := by
  simp only [problems, List.mem_append, mem_found, Email.check_eq_error_iff,
    checkPassword_eq_error_iff, requestedRole_eq_error_iff]
  constructor
  · rintro ⟨p, (⟨cause, applies, rfl⟩ | ⟨cause, applies, rfl⟩) | ⟨_, ⟨rfl, _, asked, other⟩, rfl⟩,
      rfl, rfl⟩
    · exact .email applies
    · exact .password applies
    · exact .role asked other
  · intro fault
    cases fault with
    | email applies => exact ⟨_, .inl (.inl ⟨_, applies, rfl⟩), rfl, rfl⟩
    | password applies => exact ⟨_, .inl (.inr ⟨_, applies, rfl⟩), rfl, rfl⟩
    | role asked other => exact ⟨_, .inr ⟨_, ⟨rfl, _, asked, other⟩, rfl⟩, rfl, rfl⟩

theorem problems_eq_nil_iff : problems email password role = [] ↔
    ¬ ∃ name text, Fault email password role name text := by
  rw [List.eq_nil_iff_forall_not_mem]
  constructor
  · rintro none ⟨name, text, fault⟩
    obtain ⟨p, hp, -⟩ := (mem_problems email password role name text).2 fault
    exact none p hp
  · intro valid p hp
    exact valid ⟨_, _, (mem_problems email password role _ _).1 ⟨p, hp, rfl, rfl⟩⟩

/-- A form is refused with all its problems, or accepted with the role that it asks for. -/
theorem checkRegistration_cases :
    (problems email password role ≠ [] ∧
      checkRegistration email password role = .error (problems email password role)) ∨
    problems email password role = [] ∧ ∃ asked, requestedRole role = .ok asked ∧
      checkRegistration email password role = .ok asked := by
  rw [checkRegistration, ← problems]
  cases asked : requestedRole role with
  | error p => exact .inl ⟨by simp [problems, asked, found], rfl⟩
  | ok r =>
      dsimp only
      cases none : problems email password role with
      | nil => exact .inr ⟨rfl, r, rfl, rfl⟩
      | cons p ps => exact .inl ⟨List.cons_ne_nil p ps, rfl⟩

end

end Gatehouse.Account
