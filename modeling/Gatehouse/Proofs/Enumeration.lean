import Gatehouse.Proofs.Routing
import Gatehouse.Proofs.Step
import Gatehouse.Proofs.Windows

/-!
Nobody learns from a response who has an account. Whether an address is unknown, its password
is another one or its digest cannot be read, the response to a login is the same, and a decoy that
cannot be made does not show in it; and that to a request for a reset is the same whatever the store
holds, or though it fails.
-/

namespace Gatehouse.Service

open Store (Tables)

/-- There is an account of the address, and the password is accepted for it. -/
def Authenticates (t : Tables) (email password : String) : Prop :=
  ∃ u, t.userOf? email = some u ∧ Password.verify password u.passwordHash = true

theorem login_of_not_authenticates (tokens : Token.Config) (hashing : Password.Hasher)
    {t : Tables} {email password : String} (fails : ¬ Authenticates t email password)
    (client : Account.Client) (now : Timestamp) (draws : Draws) :
    (inMemory tokens hashing).login email password client now draws t
      = (.error .invalidCredentials, t) := by
  simp only [login_eq, bind_apply, run_inMemory, Tables.run]
  cases known : t.userOf? email with
  | none => rfl
  | some u =>
      have wrong : Password.verify password u.passwordHash = false := by
        cases checked : Password.verify password u.passwordHash with
        | false => rfl
        | true => exact absurd ⟨u, known, checked⟩ fails
      simp only [Tables.orNotFound, wrong]
      rfl

end Gatehouse.Service

namespace Gatehouse.Api

open RateLimit (Limits Counter)
open Service (inMemory Authenticates)
open Store (Tables)

/-- A form is posted to a route, and can be read. -/
structure Posts (route : Route) (form : Form) (r : Request) (es : Json.Entries) : Prop where
  path : pathOf r.target = base ++ route.path
  method : r.method = "POST"
  body : form.read r.headers r.body = .ok es

/-- Two requests arrive at one time, and are charged to one client. -/
structure Alike (at_ at_' : Moment) (r r' : Request) : Prop where
  now : at_.now = at_'.now
  client : RateLimit.clientAddress r.headers r.peer = RateLimit.clientAddress r'.headers r'.peer

/-- What is said to whoever asks for a reset. -/
def resetRequested : Response :=
  .json 200 (.object [message
    "If an account exists for this email, password reset instructions have been sent"])

section
variable {σ ε : Type} {counter : Counter (PanicM σ) ε} {l : Limits} {at_ at_' : Moment}
  {r r' : Request} {es : Json.Entries}

theorem Alike.admission (same : Alike at_ at_' r r') (nameless : Nameless counter) (route : Route)
    (w : σ) : (admission counter l at_ r route w).1 = (admission counter l at_' r' route w).1 := by
  rw [admission_apply, admission_apply, same.now, same.client]
  exact congrArg (Except.bind · _) (nameless.check ..)

theorem handle_login_of_not_authenticates (tokens : Token.Config) (hashing : Password.Hasher)
    {t : Tables} (posts : Posts .login .login r es)
    (fails : ¬ Authenticates t (field es "email") (field es "password")) (caller : Option Caller)
    (w : σ) :
    handle (hosted (inMemory tokens hashing) l counter) at_ r caller .login (w, t)
      = (.ok (.ofProblem (.ofService .invalidCredentials)), (w, t)) := by
  rw [handle, login, withBody, posts.body]
  dsimp only [hosted]
  rw [login_lift, PanicM.bind_apply, onSecond,
    Service.login_of_not_authenticates tokens hashing fails]
  rfl

theorem handle_requestReset {τ : Type} {service : Service (StateM τ)} {t : τ}
    (posts : Posts .requestReset .resetRequest r es)
    (valid : Account.Email.check (field es "email") = .ok ()) (caller : Option Caller) (w : σ) :
    handle (hosted service l counter) at_ r caller .requestReset (w, t)
      = (.ok ⟨resetRequested, some (field es "email")⟩, (w, t)) := by
  rw [handle, requestReset, withBody, posts.body]
  dsimp only
  rw [valid]
  rfl

theorem answer_login_of_not_authenticates (tokens : Token.Config) (hashing : Password.Hasher)
    {t : Tables} (posts : Posts .login .login r es)
    (fails : ¬ Authenticates t (field es "email") (field es "password")) (w : σ) :
    answer (hosted (inMemory tokens hashing) l counter) at_ r (w, t)
      = ((admission counter l at_ r .login w).1.map fun admitted =>
          counted l admitted (.ofProblem (.ofService .invalidCredentials)),
        ((admission counter l at_ r .login w).2, t)) := by
  rw [answer_eq_guarded _ _ (by decide) posts.path posts.method]
  exact guarded_of_steady rfl
    (handle_login_of_not_authenticates tokens hashing posts fails none) w

theorem answer_requestReset {τ : Type} {service : Service (StateM τ)} {t : τ}
    (posts : Posts .requestReset .resetRequest r es)
    (valid : Account.Email.check (field es "email") = .ok ()) (w : σ) :
    answer (hosted service l counter) at_ r (w, t)
      = ((admission counter l at_ r .requestReset w).1.map fun admitted =>
          counted l admitted ⟨resetRequested, some (field es "email")⟩,
        ((admission counter l at_ r .requestReset w).2, t)) := by
  rw [answer_eq_guarded _ _ (by decide) posts.path posts.method]
  exact guarded_of_steady rfl (handle_requestReset posts valid none) w

end

/-- Two requests of one client at one time, over two stores, by hashers with decoys of their own.
Logins that are not accepted are answered alike, with status, headers and body, and change neither
store; and so are requests for a reset at well-formed addresses, whatever the two stores are, for
neither is asked before the response. Should the limiter break one off, it breaks off the other. -/
theorem responses_hide_accounts {σ ε : Type} {counter : Counter (PanicM σ) ε}
    (nameless : Nameless counter) (l : Limits) (w : σ) :
    (∀ (tokens : Token.Config) (hashing hashing' : Password.Hasher) (t t' : Tables)
      {at_ at_' : Moment} {r r' : Request} {es es' : Json.Entries},
      Alike at_ at_' r r' → Posts .login .login r es → Posts .login .login r' es' →
      ¬ Authenticates t (field es "email") (field es "password") →
      ¬ Authenticates t' (field es' "email") (field es' "password") →
      let x := answer (hosted (inMemory tokens hashing) l counter) at_ r (w, t)
      let x' := answer (hosted (inMemory tokens hashing') l counter) at_' r' (w, t')
      x.1.map (·.response) = x'.1.map (·.response) ∧ x.2.2 = t ∧ x'.2.2 = t') ∧
    ∀ {τ τ' : Type} (service : Service (StateM τ)) (service' : Service (StateM τ')) (t : τ)
      (t' : τ') {at_ at_' : Moment} {r r' : Request} {es es' : Json.Entries},
      Alike at_ at_' r r' → Posts .requestReset .resetRequest r es →
      Posts .requestReset .resetRequest r' es' →
      Account.Email.check (field es "email") = .ok () →
      Account.Email.check (field es' "email") = .ok () →
      let x := answer (hosted service l counter) at_ r (w, t)
      let x' := answer (hosted service' l counter) at_' r' (w, t')
      x.1.map (·.response) = x'.1.map (·.response) ∧ x.2.2 = t ∧ x'.2.2 = t' := by
  constructor
  · intro tokens hashing hashing' t t' at_ at_' r r' es es' same posts posts' fails fails' x x'
    dsimp only [x, x']
    rw [answer_login_of_not_authenticates tokens hashing posts fails,
      answer_login_of_not_authenticates tokens hashing' posts' fails', same.admission nameless]
    exact ⟨rfl, rfl, rfl⟩
  · intro τ τ' service service' t t' at_ at_' r r' es es' same posts posts' valid valid' x x'
    dsimp only [x, x']
    rw [answer_requestReset posts valid, answer_requestReset posts' valid', same.admission nameless]
    refine ⟨?_, rfl, rfl⟩
    cases (admission counter l at_' r' .requestReset w).1 with
    | error p => rfl
    | ok admitted => exact congrArg Except.ok (counted_response l admitted rfl)

/-- A member that is added is found under its key, whatever its name. -/
theorem nameless_memory {ε : Type} (now : Nat) :
    Nameless (RateLimit.memory now : Counter _ ε) where
  added _ _ _ _ _ := rfl
  extended key member member' score seconds ws := by
    have stored (name : String) : ∃ v, (ws.add now key name score).get? key = some v :=
      ⟨_, (RateLimit.Windows.get?_put _ _ _ _).trans (if_pos rfl)⟩
    obtain ⟨v, first⟩ := stored member
    obtain ⟨v', second⟩ := stored member'
    simp only [PanicM.bind_apply, RateLimit.memory, first, second]
    cases RateLimit.deadline? now seconds <;> rfl

def samplePost (route : Route) (body : String) : Request where
  method := "POST"
  target := base ++ route.path
  headers := [("content-type", Text.utf8 "application/json")]
  body := Text.utf8 body

theorem pathOf_path (route : Route) : pathOf (base ++ route.path) = base ++ route.path := by
  cases route <;> decide

def sampleMoment (draw : Uuid) (suffix : String) : Moment :=
  ⟨⟨10, 0⟩, ⟨10, 0⟩, ⟨draw, draw, draw, []⟩, suffix⟩

/-- A user whose digest is of another algorithm. -/
def sampleForeign : Account.User :=
  ⟨⟨9⟩, "c@d.ef", "$argon2i$v=19$m=8,t=1,p=1$c2FsdHNhbHRzYWx0$AAAAAAAAAAAAAAAAAAAAAA", .user,
    ⟨0, 0⟩, ⟨0, 0⟩⟩

def sampleDown : Service (StateM Unit) where
  store := ⟨fun _ => pure (.error (.unavailable "down"))⟩
  tokens := { secret := "k" }
  hashing := {}
  deliver _ _ := pure ()

theorem not_authenticates_sampleForeign :
    ¬ Authenticates { users := [sampleForeign] } "c@d.ef" "y" := by
  intro ⟨u, known, accepted⟩
  have same : u = sampleForeign := (Option.some.inj known).symm
  rw [same] at accepted
  exact absurd accepted (by decide +kernel)

/-- An unknown address, with a decoy that cannot be made, and the address of a user whose digest
cannot be read. -/
theorem responses_hide_accounts_strangers :
    let counter : Counter _ Empty := RateLimit.memory 0
    let tokens : Token.Config := { secret := "k" }
    let undigested : Password.Hasher := { settings := { keyLength := 9 } }
    let one := sampleMoment ⟨1⟩ "p"
    let other := sampleMoment ⟨2⟩ "q"
    let login := samplePost .login "\x7b\"email\":\"a@b.cd\",\"password\":\"x\"\x7d"
    let login' := samplePost .login "\x7b\"email\":\"c@d.ef\",\"password\":\"y\"\x7d"
    let ask := samplePost .requestReset "\x7b\"email\":\"a@b.cd\"\x7d"
    let ask' := samplePost .requestReset "\x7b\"email\":\"c@d.ef\"\x7d"
    let known : Tables := { users := [sampleForeign] }
    undigested.decoyDigest? = none ∧
      (answer (hosted (inMemory tokens undigested) {} counter) one login ([], {})).1.map
          (·.response)
        = (answer (hosted (inMemory tokens {}) {} counter) other login' ([], known)).1.map
          (·.response) ∧
      (answer (hosted (inMemory tokens {}) {} counter) one ask ([], known)).1.map (·.response)
        = (answer (hosted sampleDown {} counter) other ask' ([], ())).1.map (·.response) := by
  intro counter tokens undigested one other login login' ask ask' known
  have posts : Posts .login .login login [("email", .text "a@b.cd"), ("password", .text "x")] :=
    ⟨pathOf_path _, rfl, rfl⟩
  have posts' : Posts .login .login login' [("email", .text "c@d.ef"), ("password", .text "y")] :=
    ⟨pathOf_path _, rfl, rfl⟩
  have asks : Posts .requestReset .resetRequest ask [("email", .text "a@b.cd")] :=
    ⟨pathOf_path _, rfl, rfl⟩
  have asks' : Posts .requestReset .resetRequest ask' [("email", .text "c@d.ef")] :=
    ⟨pathOf_path _, rfl, rfl⟩
  have logging : Alike one other login login' := ⟨rfl, rfl⟩
  have asking : Alike one other ask ask' := ⟨rfl, rfl⟩
  have unknown : ¬ Authenticates {} "a@b.cd" "x" := fun ⟨_, found, _⟩ => nomatch found
  obtain ⟨logins, resets⟩ := responses_hide_accounts (nameless_memory 0 : Nameless counter) {} []
  refine ⟨by decide, ?_, ?_⟩
  · exact (logins tokens undigested {} {} known logging posts posts' unknown
      not_authenticates_sampleForeign).1
  · exact (resets (inMemory tokens {}) sampleDown known () asking asks asks' rfl rfl).1

end Gatehouse.Api
