import Gatehouse.Proofs.Enumeration
import Gatehouse.Proofs.HashingSettings
import Gatehouse.Proofs.RecordReading
import Gatehouse.Proofs.RegistrationForm
import Gatehouse.Proofs.SlidingWindow

/-!
Registrations from the request to the row. A form that is refused is answered with all that is
wrong with it, an address that is taken with a conflict, and neither leaves a trace in the tables;
every other form makes one user, with a digest of the password that was given.
-/

namespace Gatehouse.Service

open Store (Tables)

/-- Settings with which passwords can be hashed, and be checked against the digests. -/
structure Usable (s : Password.Settings) : Prop extends Settings.Startable s where
  digest : 10 ≤ s.keyLength ∧ s.keyLength ≤ 64
  memory : s.memoryKib ≤ Bounds.max32
  passes : s.iterations ≤ Bounds.max32

theorem Usable.hash {s : Password.Settings} {salt : Bytes} {password : String} (usable : Usable s)
    (drawn : salt.length = s.saltLength) (short : password.length ≤ 100) :
    ∃ hash, Password.hash s salt password = .ok hash ∧ Password.verify password hash = true := by
  have bounded : (Text.utf8 password).length ≤ Digest.Argon2.maxPassword :=
    calc (Text.utf8 password).length
      _ ≤ 4 * password.length := Json.length_utf8_le password
      _ ≤ 4 * 100 := Nat.mul_le_mul_left 4 short
      _ ≤ Digest.Argon2.maxPassword := by decide
  have ok := (Settings.hash_isOk_iff usable.toStartable drawn).2 ⟨usable.digest, bounded⟩
  cases hashed : Password.hash s salt password with
  | error e =>
      rw [hashed] at ok
      cases ok
  | ok hash => exact ⟨hash, rfl, Password.verify_hash hashed usable.memory usable.passes⟩

section
variable {tokens : Token.Config} {hashing : Password.Hasher} {t : Tables}
  {email password : String} {role : Option Account.Role} {now : Timestamp} {draws : Draws}

theorem register_of_taken (taken : (t.userOf? email).isSome = true) :
    (inMemory tokens hashing).register email password role now draws t
      = (.error .userAlreadyExists, t) := by
  rcases register_cases tokens hashing t email password role now draws with
    ⟨-, refused⟩ | ⟨alone, -⟩
  · exact refused
  · rw [alone] at taken
    cases taken

theorem register_of_alone {hash : String} (alone : t.userOf? email = none)
    (new : t.user? draws.record = none)
    (hashed : Password.hash hashing.settings draws.salt password = .ok hash) :
    let u : Account.User := ⟨draws.record, email, hash, role.getD .user, now, now⟩
    (inMemory tokens hashing).register email password role now draws t = (.ok u, withUser t u) := by
  rcases register_cases tokens hashing t email password role now draws with
    ⟨taken, -⟩ | ⟨-, ⟨e, failed, -⟩ | ⟨other, made, -, done⟩⟩
  · rw [alone, new] at taken
    simp at taken
  · rw [hashed] at failed
    cases failed
  · rw [hashed] at made
    cases made
    exact done

end

end Gatehouse.Service

namespace Gatehouse.Api

open Account (checkRegistration problems Fault)
open RateLimit (Limits Counter)
open Service (inMemory Usable)
open Store (Tables)

/-- What is answered to whoever registers. -/
def registered (u : Account.User) : Reply :=
  .json 201 (.object [message "User registered successfully", ("user_id", .text u.id.text)])

section
variable {σ ε : Type} {counter : Counter (PanicM σ) ε} {l : Limits} {tokens : Token.Config}
  {hashing : Password.Hasher} {t : Tables} {at_ : Moment} {r : Request} {es : Json.Entries}
  {caller : Option Caller} (w : σ)

theorem handle_register_of_refused (posts : Posts .register .register r es)
    {found : List Account.Problem}
    (refused : checkRegistration (field es "email") (field es "password") (es.text? "role")
      = .error found) :
    handle (hosted (inMemory tokens hashing) l counter) at_ r caller .register (w, t)
      = (.ok (.ofProblem (.validation found)), (w, t)) := by
  rw [handle, register, withBody, posts.body]
  dsimp only
  rw [refused]
  rfl

theorem handle_register_of_accepted (posts : Posts .register .register r es)
    {role : Option Account.Role}
    (accepted : checkRegistration (field es "email") (field es "password") (es.text? "role")
      = .ok role) :
    let done := (inMemory tokens hashing).register (field es "email") (field es "password") role
      at_.now at_.draws t
    handle (hosted (inMemory tokens hashing) l counter) at_ r caller .register (w, t)
      = (.ok (told done.1 registered), (w, done.2)) := by
  rw [handle, register, withBody, posts.body]
  dsimp only [hosted]
  rw [accepted]
  dsimp only
  rw [register_lift, PanicM.bind_apply, onSecond]
  rfl

end

/-- The details of a form that is refused have an entry for each field that is. -/
theorem fieldDetails_problems (email password : String) (role : Option String) :
    ∃ details, Problem.fieldDetails ((problems email password role).map fun p =>
        (p.field, p.message)) = .object details ∧
      (details.map Prod.fst).Nodup ∧
      ∀ name v, (name, v) ∈ details ↔
        ∃ text, v = .text text ∧ Fault email password role name text := by
  let entry (p : Account.Problem) : String × Json.Value := (p.field, .text p.message)
  have keys : ((problems email password role).map entry).map Prod.fst
      = (problems email password role).map Account.Problem.field := List.map_map
  have once : (((problems email password role).map entry).map Prod.fst).Nodup :=
    keys ▸ Account.nodup_problems email password role
  obtain ⟨details, sorted, perm⟩ := Json.sorted_eq_object once
  refine ⟨details, ?_, (perm.map _).nodup_iff.2 once, fun name v => ?_⟩
  · rw [Problem.fieldDetails, List.map_map]
    exact sorted
  · rw [perm.mem_iff, List.mem_map]
    constructor
    · rintro ⟨p, hp, same⟩
      obtain ⟨rfl, rfl⟩ := Prod.mk.inj same
      exact ⟨p.message, rfl, (Account.mem_problems email password role _ _).1 ⟨p, hp, rfl, rfl⟩⟩
    · rintro ⟨text, rfl, fault⟩
      obtain ⟨p, hp, rfl, rfl⟩ := (Account.mem_problems email password role name text).2 fault
      exact ⟨p, hp, rfl⟩

/-- A registration is answered in one of three ways. If a field is refused, the details of the
response are one entry for each field that is, with its reason, and the tables stay as they are.
If else the address is taken, it is said to be, and the tables stay too. If else, there is one user
more, with the address, the role that is named or that of plain users, a digest that accepts the
password, and the identifier that the response tells. -/
theorem register_endpoint {σ ε : Type} (counter : Counter (PanicM σ) ε) (l : Limits)
    (tokens : Token.Config) {hashing : Password.Hasher} {t : Tables} {at_ : Moment} {r : Request}
    {es : Json.Entries} {w : σ} {n : Nat} {ends : UInt64} (posts : Posts .register .register r es)
    (admitted : (admission counter l at_ r .register w).1 = .ok (.ok (n, ends)))
    (usable : Usable hashing.settings)
    (drawn : at_.draws.salt.length = hashing.settings.saltLength)
    (new : t.user? at_.draws.record = none) :
    let email := field es "email"
    let password := field es "password"
    let role := es.text? "role"
    let x := answer (hosted (inMemory tokens hashing) l counter) at_ r (w, t)
    let invalid := ∃ name text, Fault email password role name text
    let taken := ∃ u ∈ t.users, u.email = email
    ∃ reply, x.1 = .ok reply ∧
    (invalid → reply.response.status = 400 ∧ x.2.2 = t ∧
      ∃ details, (details.map Prod.fst).Nodup ∧
        (∀ name v, (name, v) ∈ details ↔
          ∃ text, v = .text text ∧ Fault email password role name text) ∧
        reply.response.body = (Json.Value.object [("error", .text "Validation failed"),
          ("code", .text "VALIDATION_FAILED"), ("details", .object details)]).compact) ∧
    (¬ invalid → taken → reply.response.status = 409 ∧ x.2.2 = t ∧
      reply.response.body = (Json.Value.object [
        ("error", .text "A user with this email already exists"),
        ("code", .text "USER_EXISTS")]).compact) ∧
    (¬ invalid → ¬ taken → reply.response.status = 201 ∧
      ∃ u, x.2.2 = { t with users := t.users ++ [u] } ∧ u.email = email ∧
        (role = some u.role.name ∨ role.getD "" = "" ∧ u.role = .user) ∧
        Password.verify password u.passwordHash = true ∧
        reply.response.body = (Json.Value.object [
          ("message", .text "User registered successfully"),
          ("user_id", .text u.id.text)]).compact) := by
  intro email password role x invalid taken
  have answered {reply : Reply} {t' : Tables} (handled : ∀ w,
      handle (hosted (inMemory tokens hashing) l counter) at_ r none .register (w, t)
        = (.ok reply, (w, t'))) :
      x = (.ok { reply with response := tellLimit l ends n reply.response },
        ((admission counter l at_ r .register w).2, t')) :=
    answer_of_admitted (by decide) rfl posts.path posts.method admitted handled
  have none_iff : problems email password role = [] ↔ ¬ invalid :=
    Account.problems_eq_nil_iff email password role
  rcases Account.checkRegistration_cases email password role with
    ⟨some_, refused⟩ | ⟨none, asked, requested, accepted⟩
  · have faulty : invalid := by_contra fun valid => some_ (none_iff.2 valid)
    obtain ⟨details, same, once, entries⟩ := fieldDetails_problems email password role
    have done := answered fun w => handle_register_of_refused w posts refused
    rw [done]
    refine ⟨_, rfl, fun _ => ⟨rfl, rfl, details, once, entries, same ▸ rfl⟩,
      fun valid => absurd faulty valid, fun valid => absurd faulty valid⟩
  · have valid : ¬ invalid := none_iff.1 none
    have done := answered fun w => handle_register_of_accepted w posts accepted
    rw [done]
    refine ⟨_, rfl, fun faulty => absurd faulty valid, fun _ known => ?_, fun _ unknown => ?_⟩
    · obtain ⟨u, hu, address⟩ := known
      have found : (t.userOf? email).isSome = true :=
        List.find?_isSome.2 ⟨u, hu, decide_eq_true address⟩
      rw [Service.register_of_taken found]
      exact ⟨rfl, rfl, rfl⟩
    · have alone : t.userOf? email = Option.none :=
        List.find?_eq_none.2 fun u hu same => unknown ⟨u, hu, of_decide_eq_true same⟩
      have short : password.length ≤ 100 := Nat.le_of_not_lt fun long =>
        valid ⟨_, _, .password (p := .tooLong) long⟩
      obtain ⟨hash, hashed, accepts⟩ := usable.hash drawn short
      rw [Service.register_of_alone alone new hashed]
      exact ⟨rfl, _, rfl, rfl, Account.role_of_requestedRole requested, accepts, rfl⟩

/-- A form as an object; the role may be null. -/
def registration (email password : String) (role : Option String) : Json.Value :=
  .object [("email", .text email), ("password", .text password), ("role", role.elim .null .text)]

/-- Every form can be posted that is not too long, whatever its texts hold. -/
theorem posts_registration {r : Request} (email password : String) (role : Option String)
    (path : pathOf r.target = base ++ Route.register.path) (method : r.method = "POST")
    (json : saysJson r.headers = true)
    (body : r.body = Text.utf8 (registration email password role).compact)
    (short : r.body.length ≤ maxBody) :
    Posts .register .register r [("email", .text email), ("password", .text password),
      ("role", role.elim .absent .text)] := by
  have optional : Json.Shape.optionalText.Reads (role.elim .null .text)
      (role.elim .absent .text) := by
    cases role with
    | none => exact Json.Shape.reads_null
    | some name => exact Json.Shape.reads_optionalText name
  let first : Json.Written := ⟨⟨"email", .text, false⟩, .text email, .text email,
    Json.Shape.reads_text email⟩
  let rest : List Json.Written := [
    ⟨⟨"password", .text, false⟩, .text password, .text password, Json.Shape.reads_text password⟩,
    ⟨⟨"role", .optionalText, true⟩, _, _, optional⟩]
  have once : ((first :: rest).map (·.field.name)).Nodup :=
    (by decide : ["email", "password", "role"].Nodup)
  have read : Json.record Form.register.title Form.register.fields r.body
      = .ok ((first :: rest).map Json.Written.entry, []) := by
    have written := Json.record_write Form.register.title once []
    rw [List.append_nil, ← Json.utf8_ofList] at written
    rw [body]
    exact written
  refine ⟨path, method, ?_⟩
  rw [Form.read, json, if_neg (by simp), if_neg (Nat.not_lt.2 short), read]
  rfl

/-- A form of which no field is accepted, one with the address of another user, and a third. -/
theorem register_endpoint_forms :
    let counter : Counter _ Empty := RateLimit.memory 0
    let at_ : Moment := ⟨⟨10, 0⟩, ⟨10, 0⟩, ⟨⟨1⟩, ⟨2⟩, ⟨3⟩, List.replicate 16 0⟩, "p"⟩
    let hashing : Password.Hasher := {}
    let t : Tables := { users := [sampleForeign] }
    let post (email password : String) (role : Option String) :=
      samplePost .register (registration email password role).compact
    let x (r : Request) :=
      answer (hosted (inMemory { secret := "k" } hashing) {} counter) at_ r ([], t)
    let status (r : Request) := (x r).1.map (·.response.status)
    let refused := post "nobody" "short" (some "root")
    let taken := post "c@d.ef" "long enough" none
    let made := post "a@b.cd" "long enough" (some "admin")
    (Usable hashing.settings ∧ at_.draws.salt.length = hashing.settings.saltLength ∧
        t.user? at_.draws.record = none) ∧
      (status refused = .ok 400 ∧ (x refused).2.2 = t) ∧
      (status taken = .ok 409 ∧ (x taken).2.2 = t) ∧
      status made = .ok 201 ∧
        ∃ u, (x made).2.2 = { users := [sampleForeign, u] } ∧ u.email = "a@b.cd" ∧
          u.role = .admin ∧ Password.verify "long enough" u.passwordHash = true := by
  intro counter at_ hashing t post x status refused taken made
  have usable : Usable hashing.settings :=
    ⟨Settings.check_eq_ok_iff_startable.1 (by decide), by decide, by decide, by decide⟩
  have drawn : at_.draws.salt.length = hashing.settings.saltLength := by decide
  have new : t.user? at_.draws.record = none := by decide
  have told {r : Request} {reply : Reply} {code : Nat} (answered : (x r).1 = .ok reply)
      (same : reply.response.status = code) : status r = .ok code := by
    rw [← same]
    exact congrArg (Except.map (·.response.status)) answered
  have admitted (r : Request) :
      (admission counter {} at_ r .register []).1 = .ok (.ok (1, 70)) := by
    have fits : 0 + (({} : Limits).windowSeconds.toNat + 60) * 1000 ≤ RateLimit.maxInstant := by
      decide
    have checked (key : String) :
        (RateLimit.Arrival.serve {} ⟨key, at_.suffix, at_.now.millis, 0⟩ []).1 = .ok (.ok 1) := by
      rw [RateLimit.serve_eq, RateLimit.Limits.deadline_eq_ok fits]
      rfl
    have ended : withEnd {} at_.now (.ok 1) = .ok (.ok (1, 70)) := by decide
    rw [admission_apply, ← ended]
    exact congrArg (Except.bind · (withEnd {} at_.now)) (checked _)
  have answers (email password : String) (role : Option String)
      (short : (post email password role).body.length ≤ maxBody) :=
    register_endpoint counter {} { secret := "k" }
      (posts_registration (r := post email password role) email password role
        (pathOf_path .register) rfl rfl rfl short) (admitted _) usable drawn new
  have valid {email password : String} {role : Option String}
      (none : problems email password role = []) :
      ¬ ∃ name text, Fault email password role name text :=
    (Account.problems_eq_nil_iff email password role).1 none
  obtain ⟨_, answer, first, -, -⟩ := answers "nobody" "short" (some "root") (by decide +kernel)
  obtain ⟨_, answer', -, second, -⟩ := answers "c@d.ef" "long enough" none (by decide +kernel)
  obtain ⟨_, answer'', -, -, third⟩ :=
    answers "a@b.cd" "long enough" (some "admin") (by decide +kernel)
  have faulty : Fault "nobody" "short" (some "root") "role" "Role must be one of: user, admin" :=
    .role rfl (by decide)
  obtain ⟨bad, kept, -⟩ := first ⟨_, _, faulty⟩
  obtain ⟨conflict, kept', -⟩ := second (valid rfl) ⟨sampleForeign, List.mem_cons_self, rfl⟩
  have unknown : ¬ ∃ u ∈ t.users, u.email = "a@b.cd" := by
    rintro ⟨u, hu, same⟩
    rw [List.mem_singleton.1 hu] at same
    exact absurd same (by decide)
  obtain ⟨created, u, users, address, role, accepts, -⟩ := third (valid rfl) unknown
  refine ⟨⟨usable, drawn, new⟩, ⟨told answer bad, kept⟩, ⟨told answer' conflict, kept'⟩,
    told answer'' created, u, users, address, ?_, accepts⟩
  rcases role with named | ⟨empty, -⟩
  · have admin : "admin" = u.role.name := Option.some.inj named
    exact Option.some.inj ((Account.Role.ofName?_name u.role).symm.trans (admin ▸ rfl))
  · exact absurd empty (by decide)

end Gatehouse.Api
