import Gatehouse.Service.Accounts
import Gatehouse.Service.Resets
import Gatehouse.Service.Sweep
import Gatehouse.Store.Tables

/-!
The service over tables in memory, one event at a time. What an event can do to the tables is
said once, with all that must have held for it to do so; whatever is kept by a run is shown by
cases on that.
-/

namespace Gatehouse.Service

open Account (User Session Reset)
open Store (Tables)

/-- A call of the service or of the sweep, with the times at which it looks at the clock and
what it draws. -/
inductive Event where
  | register (email password : String) (role : Option Account.Role) (now : Timestamp)
      (draws : Draws)
  | login (email password : String) (client : Account.Client) (now : Timestamp) (draws : Draws)
  | refresh (token : String) (client : Account.Client) (now : Timestamp) (draws : Draws)
  | logout (token : String)
  | logoutAll (userId : Uuid)
  | requestReset (email : String) (now : Timestamp) (draws : Draws)
  | resetPassword (token password : String) (now later : Timestamp) (salt : Bytes)
  | sweep (now : Timestamp)
  deriving DecidableEq, Repr

/-- The times of an event, in order. -/
def Event.times : Event → List Timestamp
  | .register _ _ _ now _ => [now]
  | .login _ _ _ now _ => [now]
  | .refresh _ _ now _ => [now]
  | .logout _ => []
  | .logoutAll _ => []
  | .requestReset _ now _ => [now]
  | .resetPassword _ _ now later _ => [now, later]
  | .sweep now => [now]

/-- The identifiers that an event draws. -/
def Event.drawn : Event → List Uuid
  | .register _ _ _ _ draws => [draws.record]
  | .login _ _ _ _ draws => [draws.firstToken, draws.secondToken, draws.record]
  | .refresh _ _ _ draws => [draws.firstToken, draws.secondToken, draws.record]
  | .logout _ => []
  | .logoutAll _ => []
  | .requestReset _ _ draws => [draws.firstToken, draws.record]
  | .resetPassword .. => []
  | .sweep _ => []

def Event.isSweep : Event → Bool
  | .sweep _ => true
  | _ => false

inductive Answer where
  | user (result : Except Error User)
  | pair (result : Except Error Pair)
  | ended (result : Except Error Unit)
  | count (result : Except Error Nat)
  | token (result : Except Error String)
  | change (result : Except Error Outcome)
  | swept (report : SweepReport)

def Answer.isOk : Answer → Bool
  | .user r => r.isOk
  | .pair r => r.isOk
  | .ended r => r.isOk
  | .count r => r.isOk
  | .token r => r.isOk
  | .change r => r.isOk
  | .swept _ => true

def Event.serve {m : Type → Type} [Monad m] (s : Service m) : Event → m Answer
  | .register email password role now draws => do
      return .user (← s.register email password role now draws)
  | .login email password client now draws => do
      return .pair (← s.login email password client now draws)
  | .refresh token client now draws => do return .pair (← s.refresh token client now draws)
  | .logout token => do return .ended (← s.logout token)
  | .logoutAll userId => do return .count (← s.logoutAll userId)
  | .requestReset email now draws => do return .token (← s.requestReset email now draws)
  | .resetPassword token password now later salt => do
      return .change (← s.resetPassword token password now later salt)
  | .sweep now => do return .swept (← Service.sweep s.store now)

/-- The service over tables in memory. -/
def inMemory (tokens : Token.Config) (hashing : Password.Hasher) :
    Service (StateM Tables) where
  store := Store.memory
  tokens := tokens
  hashing := hashing
  deliver _ _ := pure ()

section
variable (t : Tables)

def withUser (u : User) : Tables := { t with users := t.users ++ [u] }

def withSession (x : Session) : Tables := { t with sessions := t.sessions ++ [x] }

def withReset (r : Reset) : Tables := { t with resets := t.resets ++ [r] }

def withoutSession (id : Uuid) : Tables :=
  { t with sessions := t.sessions.filter (·.id ≠ id) }

def withoutSessionsOf (userId : Uuid) : Tables :=
  { t with sessions := t.sessions.filter (·.userId ≠ userId) }

/-- A reset is used to give a user another digest. -/
def withDigest (r : Reset) (u : User) (hash : String) (at_ : Timestamp) : Tables :=
  (t.stampReset r.id at_).changeUser u.id fun v =>
    { v with passwordHash := hash, updatedAt := at_ }

/-- What a sweep leaves. -/
def swept (now : Timestamp) : Tables :=
  { t with
    sessions := t.sessions.filter (!·.isExpired now)
    resets := t.resets.filter (Tables.isClaimable · now) }

end

/-- The session that a login opens, or a renewal in place of another. -/
abbrev opened (s : Service (StateM Tables)) (u : User) (client : Account.Client) (now : Timestamp)
    (draws : Draws) : Session :=
  s.sessionFor u client (s.pairFor u now draws).refreshToken now draws

/-- The token of a reset that is requested. -/
abbrev resetToken (s : Service (StateM Tables)) (u : User) (now : Timestamp) (draws : Draws) :
    String :=
  s.tokens.issue .reset u.id u.email .user now.seconds draws.firstToken

/-- What an event can do to the tables, and how it is then answered. Where it is refused it
does nothing, but for the renewal of a session that has expired, which ends it. -/
inductive Step (s : Service (StateM Tables)) (t : Tables) : Event → Answer → Tables → Prop where
  | refused {e a} (failed : a.isOk = false) (early : a ≠ .pair (.error .tokenExpired))
      (asked : e.isSweep = false) : Step s t e a t
  | registered {email password role now draws u} (id : u.id = draws.record)
      (address : u.email = email) (new : t.user? u.id = none) (alone : t.userOf? email = none) :
      Step s t (.register email password role now draws) (.user (.ok u)) (withUser t u)
  | opened {email password client now draws u} (known : t.userOf? email = some u)
      (new : t.session? draws.record = none) :
      Step s t (.login email password client now draws) (.pair (.ok (s.pairFor u now draws)))
        (withSession t (Service.opened s u client now draws))
  | late {token client now draws}
      (expired : s.tokens.validate .refresh now.seconds token = .error .expired) :
      Step s t (.refresh token client now draws) (.pair (.error .tokenExpired)) t
  | lapsed {token client now draws claims x}
      (valid : s.tokens.validate .refresh now.seconds token = .ok claims)
      (behind : t.sessionOf? token = some x) (expired : x.isExpired now = true) :
      Step s t (.refresh token client now draws) (.pair (.error .tokenExpired))
        (withoutSession t x.id)
  | renewed {token client now draws claims u x}
      (valid : s.tokens.validate .refresh now.seconds token = .ok claims)
      (known : t.user? claims.userId = some u) (behind : t.sessionOf? token = some x)
      (own : x.userId = u.id) (lasting : x.isExpired now = false)
      (new : draws.record = x.id ∨ t.session? draws.record = none) :
      Step s t (.refresh token client now draws) (.pair (.ok (s.pairFor u now draws)))
        (withSession (withoutSession t x.id) (Service.opened s u client now draws))
  | absent {token} (missing : t.sessionOf? token = none) :
      Step s t (.logout token) (.ended (.ok ())) t
  | closed {token x} (behind : t.sessionOf? token = some x) :
      Step s t (.logout token) (.ended (.ok ())) (withoutSession t x.id)
  | allClosed {userId n} :
      Step s t (.logoutAll userId) (.count (.ok n)) (withoutSessionsOf t userId)
  | requested {email now draws u} (known : t.userOf? email = some u)
      (new : t.reset? draws.record = none)
      (unknown : t.resetOf? (resetToken s u now draws) = none) :
      Step s t (.requestReset email now draws) (.token (.ok (resetToken s u now draws)))
        (withReset t (s.resetFor u (resetToken s u now draws) now draws))
  | changed {token password now later salt claims u r q} {hash : String}
      (valid : s.tokens.validate .reset now.seconds token = .ok claims)
      (known : t.user? claims.userId = some u) (behind : t.resetOf? token = some r)
      (own : r.userId = u.id) (unused : r.isUsed = false)
      (claimed : t.reset? r.id = some q) (free : Tables.isClaimable q later = true) :
      Step s t (.resetPassword token password now later salt) (.change (.ok {}))
        (withoutSessionsOf (withDigest t r u hash later) u.id)
  | swept {now report} : Step s t (.sweep now) (.swept report) (Service.swept t now)

section
variable {t : Tables}

theorem session?_of_sessionOf? {token : String} {x : Session}
    (h : t.sessionOf? token = some x) : (t.session? x.id).isSome = true := by
  rw [Tables.session?, List.find?_isSome]
  exact ⟨x, List.mem_of_find?_eq_some h, by simp⟩

theorem deleteSession_of_sessionOf? {token : String} {x : Session}
    (h : t.sessionOf? token = some x) :
    Tables.deleteSession x.id t = (.ok (), withoutSession t x.id) := by
  have found := session?_of_sessionOf? h
  rw [← Option.not_isNone, Bool.not_eq_true'] at found
  rw [Tables.deleteSession, found]
  rfl

theorem createSession_of_new {x : Session} (new : t.session? x.id = none) :
    Tables.createSession x t = (.ok (), withSession t x) := by
  rw [Tables.createSession, new]
  rfl

theorem createSession_cases (t : Tables) (x : Session) :
    (t.session? x.id = none ∧ Tables.createSession x t = (.ok (), withSession t x)) ∨
    Tables.createSession x t = (.error .conflict, t) := by
  cases h : t.session? x.id with
  | none => exact .inl ⟨rfl, createSession_of_new h⟩
  | some y => exact .inr (by rw [Tables.createSession, h]; rfl)

theorem rotateSession_of_new {token : String} {x y : Session} (h : t.sessionOf? token = some x)
    (new : t.session? y.id = none) :
    Tables.rotateSession x.id y t = (.ok (), withSession (withoutSession t x.id) y) := by
  have found : (t.session? x.id).isNone = false := by
    simpa using session?_of_sessionOf? h
  rw [Tables.rotateSession, found, if_neg Bool.false_ne_true, new, Option.isSome_none,
    Bool.and_false, if_neg Bool.false_ne_true]
  rfl

theorem rotateSession_cases {token : String} {x : Session} (h : t.sessionOf? token = some x)
    (y : Session) :
    ((y.id = x.id ∨ t.session? y.id = none) ∧
      Tables.rotateSession x.id y t = (.ok (), withSession (withoutSession t x.id) y)) ∨
    Tables.rotateSession x.id y t = (.error .conflict, t) := by
  have found : (t.session? x.id).isNone = false := by
    simpa using session?_of_sessionOf? h
  rw [Tables.rotateSession, found, if_neg Bool.false_ne_true]
  by_cases same : y.id = x.id
  · exact .inl ⟨.inl same, by rw [if_neg (by simp [same])]; rfl⟩
  cases new : t.session? y.id with
  | none => exact .inl ⟨.inr rfl, by rw [if_neg (by simp)]; rfl⟩
  | some z => exact .inr (by rw [if_pos (by simp [same])])

theorem createReset_of_new {r : Reset} (new : t.reset? r.id = none)
    (unknown : t.resetOf? r.token = none) :
    Tables.createReset r t = (.ok (), withReset t r) := by
  rw [Tables.createReset, new, unknown]
  rfl

theorem createReset_cases (t : Tables) (r : Reset) :
    (t.reset? r.id = none ∧ t.resetOf? r.token = none ∧
      Tables.createReset r t = (.ok (), withReset t r)) ∨
    Tables.createReset r t = (.error .conflict, t) := by
  cases h : t.reset? r.id with
  | some q => exact .inr (by rw [Tables.createReset, h]; rfl)
  | none =>
      cases h' : t.resetOf? r.token with
      | some q => exact .inr (by rw [Tables.createReset, h, h']; rfl)
      | none => exact .inl ⟨rfl, rfl, createReset_of_new h h'⟩

/-- A user with another digest. -/
abbrev rehashed (u : User) (hash : String) (at_ : Timestamp) : User :=
  { u with passwordHash := hash, updatedAt := at_ }

theorem consumeReset_cases (t : Tables) (r : Reset) (u : User) (hash : String) (at_ : Timestamp) :
    (∃ q, t.reset? r.id = some q ∧ Tables.isClaimable q at_ = true ∧
      Tables.consumeReset r.id (rehashed u hash at_) at_ t = (.ok (), withDigest t r u hash at_)) ∨
    Tables.consumeReset r.id (rehashed u hash at_) at_ t = (.error .notFound, t) := by
  rw [Tables.consumeReset]
  cases found : t.reset? r.id with
  | none => exact .inr rfl
  | some q =>
      dsimp only
      by_cases free : (Tables.isClaimable q at_ && (t.user? u.id).isSome) = true
      · exact .inl ⟨q, rfl, (Bool.and_eq_true_iff.1 free).1, if_pos free⟩
      · exact .inr (if_neg free)

end

section
variable (tokens : Token.Config) (hashing : Password.Hasher) (t : Tables)

theorem run_inMemory {α : Type} (op : Store.Op α) :
    (inMemory tokens hashing).store.run op t = Tables.run op t := rfl

/-- A registration is refused because its address or its identifier is taken, or because its
password cannot be hashed; or else there is one user more. -/
theorem register_cases (email password : String) (role : Option Account.Role) (now : Timestamp)
    (draws : Draws) :
    let answer := (inMemory tokens hashing).register email password role now draws t
    (((t.userOf? email).isSome = true ∨ (t.user? draws.record).isSome = true) ∧
      answer = (.error .userAlreadyExists, t)) ∨
    t.userOf? email = none ∧
      ((∃ e, Password.hash hashing.settings draws.salt password = .error e ∧
        answer = (.error (.internal (.hashing e)), t)) ∨
      ∃ hash, Password.hash hashing.settings draws.salt password = .ok hash ∧
        t.user? draws.record = none ∧
        let u : User := ⟨draws.record, email, hash, role.getD .user, now, now⟩
        answer = (.ok u, withUser t u)) := by
  dsimp only
  simp only [register, bind_apply, run_inMemory, Tables.run]
  cases known : t.userOf? email with
  | some u => exact .inl ⟨.inl rfl, rfl⟩
  | none =>
      have settings : (inMemory tokens hashing).hashing = hashing := rfl
      simp only [Tables.orNotFound, settings]
      cases hashed : Password.hash hashing.settings draws.salt password with
      | error e => exact .inr ⟨trivial, .inl ⟨e, rfl, rfl⟩⟩
      | ok hash =>
          simp only [bind_apply, run_inMemory, Tables.run, Tables.createUser, known,
            Option.isSome_none, Bool.or_false]
          cases new : t.user? draws.record with
          | some u => exact .inl ⟨.inr rfl, rfl⟩
          | none => exact .inr ⟨trivial, .inr ⟨hash, rfl, rfl, rfl⟩⟩

theorem register_step (email password : String) (role : Option Account.Role) (now : Timestamp)
    (draws : Draws) :
    let answer := (inMemory tokens hashing).register email password role now draws t
    Step (inMemory tokens hashing) t (.register email password role now draws)
      (.user answer.1) answer.2 := by
  rcases register_cases tokens hashing t email password role now draws with
    ⟨-, taken⟩ | ⟨alone, ⟨e, -, failed⟩ | ⟨hash, -, new, done⟩⟩
  · rw [taken]
    exact .refused rfl nofun rfl
  · rw [failed]
    exact .refused rfl nofun rfl
  · rw [done]
    exact .registered rfl rfl new alone

theorem login_step (email password : String) (client : Account.Client) (now : Timestamp)
    (draws : Draws) :
    let answer := (inMemory tokens hashing).login email password client now draws t
    Step (inMemory tokens hashing) t (.login email password client now draws)
      (.pair answer.1) answer.2 := by
  dsimp only
  simp only [login_eq, bind_apply, run_inMemory, Tables.run]
  cases known : t.userOf? email with
  | none => exact .refused rfl nofun rfl
  | some u =>
      simp only [Tables.orNotFound]
      cases Password.verify password u.passwordHash with
      | false => exact .refused rfl nofun rfl
      | true =>
          simp only [Bool.not_true, Bool.false_eq_true, if_false, bind_apply, run_inMemory,
            Tables.run]
          rcases createSession_cases t (opened (inMemory tokens hashing) u client now draws) with
            ⟨new, created⟩ | conflict
          · rw [created]
            exact .opened known new
          · rw [conflict]
            exact .refused rfl nofun rfl

section
variable {tokens : Token.Config} {hashing : Password.Hasher} {t : Tables} {u : User}
  {client : Account.Client} {now : Timestamp} {draws : Draws}

theorem login_of_verified {email password : String} (known : t.userOf? email = some u)
    (right : Password.verify password u.passwordHash = true)
    (new : t.session? draws.record = none) :
    let s := inMemory tokens hashing
    s.login email password client now draws t
      = (.ok (s.pairFor u now draws), withSession t (opened s u client now draws)) := by
  simp only [login_eq, bind_apply, run_inMemory, Tables.run, known, Tables.orNotFound, right,
    Bool.not_true, Bool.false_eq_true, if_false]
  rw [createSession_of_new new]
  rfl

theorem refresh_of_lasting {token : String} {claims : Token.Claims} {x : Session}
    (valid : tokens.validate .refresh now.seconds token = .ok claims)
    (known : t.user? claims.userId = some u) (behind : t.sessionOf? token = some x)
    (own : x.userId = u.id) (lasting : x.isExpired now = false)
    (new : t.session? draws.record = none) :
    let s := inMemory tokens hashing
    s.refresh token client now draws t
      = (.ok (s.pairFor u now draws),
        withSession (withoutSession t x.id) (opened s u client now draws)) := by
  have tokens_eq : (inMemory tokens hashing).tokens = tokens := rfl
  simp only [refresh, tokens_eq, valid, user, bind_apply, run_inMemory, Tables.run, known,
    Tables.orNotFound, pure_apply, behind]
  rw [if_neg (Decidable.not_not.2 own)]
  simp only [lasting, Bool.false_eq_true, if_false, renew, bind_apply, run_inMemory, Tables.run]
  rw [rotateSession_of_new behind new]
  rfl

theorem pair_apply {m : StateM Tables (Except Error Pair)} {p : Pair} {t' : Tables}
    (served : m t = (.ok p, t')) :
    (do return Answer.pair (← m) : StateM Tables Answer) t = (.pair (.ok p), t') := by
  rw [bind_apply, served]
  rfl

end

theorem refresh_step (token : String) (client : Account.Client) (now : Timestamp)
    (draws : Draws) :
    let answer := (inMemory tokens hashing).refresh token client now draws t
    Step (inMemory tokens hashing) t (.refresh token client now draws)
      (.pair answer.1) answer.2 := by
  dsimp only
  simp only [refresh]
  cases valid : (inMemory tokens hashing).tokens.validate .refresh now.seconds token with
  | error e =>
      cases e with
      | expired => exact .late valid
      | invalid => exact .refused rfl nofun rfl
      | wrongKind expected actual => exact .refused rfl nofun rfl
  | ok claims =>
      simp only [user, bind_apply, run_inMemory, Tables.run]
      cases known : t.user? claims.userId with
      | none => exact .refused rfl nofun rfl
      | some u =>
          simp only [Tables.orNotFound, pure_apply, bind_apply, run_inMemory, Tables.run]
          cases behind : t.sessionOf? token with
          | none => exact .refused rfl nofun rfl
          | some x =>
              dsimp only
              by_cases own : x.userId = u.id
              · rw [if_neg (Decidable.not_not.2 own)]
                cases lasting : x.isExpired now with
                | true =>
                    simp only [if_true, bind_apply, run_inMemory, Tables.run,
                      deleteSession_of_sessionOf? behind]
                    exact .lapsed valid behind lasting
                | false =>
                    simp only [Bool.false_eq_true, if_false, renew, bind_apply, run_inMemory,
                      Tables.run]
                    rcases rotateSession_cases behind
                        (opened (inMemory tokens hashing) u client now draws) with
                      ⟨new, rotated⟩ | conflict
                    · rw [rotated]
                      exact .renewed valid known behind own lasting new
                    · rw [conflict]
                      exact .refused rfl nofun rfl
              · rw [if_pos own]
                exact .refused rfl nofun rfl

theorem logout_step (token : String) :
    let answer := (inMemory tokens hashing).logout token t
    Step (inMemory tokens hashing) t (.logout token) (.ended answer.1) answer.2 := by
  dsimp only
  simp only [logout, bind_apply, run_inMemory, Tables.run]
  cases behind : t.sessionOf? token with
  | none => exact .absent behind
  | some x =>
      simp only [Tables.orNotFound, bind_apply, run_inMemory, Tables.run,
        deleteSession_of_sessionOf? behind]
      exact .closed behind

theorem requestReset_step (email : String) (now : Timestamp) (draws : Draws) :
    let answer := (inMemory tokens hashing).requestReset email now draws t
    Step (inMemory tokens hashing) t (.requestReset email now draws) (.token answer.1)
      answer.2 := by
  dsimp only
  simp only [requestReset, bind_apply, run_inMemory, Tables.run]
  cases known : t.userOf? email with
  | none => exact .refused rfl nofun rfl
  | some u =>
      simp only [Tables.orNotFound, bind_apply, run_inMemory, Tables.run]
      rcases createReset_cases t ((inMemory tokens hashing).resetFor u
          (resetToken (inMemory tokens hashing) u now draws) now draws) with
        ⟨new, unknown, created⟩ | conflict
      · rw [created]
        exact .requested known new unknown
      · rw [conflict]
        exact .refused rfl nofun rfl

/-- A token redeems a reset of a user: it names the user, and the reset behind it is free when it
is looked at, and still free when it is consumed after the new password has been hashed. -/
structure Redeems (s : Service (StateM Tables)) (t : Tables) (token password : String)
    (now later : Timestamp) (salt : Bytes) (u : User) (r : Reset) (hash : String) : Prop where
  named : ∃ claims, s.tokens.validate .reset now.seconds token = .ok claims ∧
    t.user? claims.userId = some u
  behind : t.resetOf? token = some r
  own : r.userId = u.id
  early : r.isExpired now = false
  unused : r.isUsed = false
  hashed : Password.hash s.hashing.settings salt password = .ok hash
  free : ∃ q, t.reset? r.id = some q ∧ Tables.isClaimable q later = true

theorem resetPassword_cases (token password : String) (now later : Timestamp) (salt : Bytes) :
    let answer := (inMemory tokens hashing).resetPassword token password now later salt t
    (∃ u r hash, Redeems (inMemory tokens hashing) t token password now later salt u r hash ∧
      answer = (.ok {}, withoutSessionsOf (withDigest t r u hash later) u.id)) ∨
    ∃ e, answer = (.error e, t) := by
  dsimp only
  simp only [resetPassword]
  cases valid : (inMemory tokens hashing).tokens.validate .reset now.seconds token with
  | error e => exact .inr ⟨_, rfl⟩
  | ok claims =>
      simp only [user, bind_apply, run_inMemory, Tables.run]
      cases known : t.user? claims.userId with
      | none => exact .inr ⟨_, rfl⟩
      | some u =>
          simp only [Tables.orNotFound, pure_apply, bind_apply, run_inMemory, Tables.run]
          cases behind : t.resetOf? token with
          | none => exact .inr ⟨_, rfl⟩
          | some r =>
              dsimp only
              by_cases own : r.userId = u.id
              · rw [if_neg (Decidable.not_not.2 own)]
                cases early : r.isExpired now with
                | true => exact .inr ⟨_, rfl⟩
                | false =>
                    cases unused : r.isUsed with
                    | true => exact .inr ⟨_, rfl⟩
                    | false =>
                        simp only [Bool.false_eq_true, if_false]
                        cases hashed : Password.hash (inMemory tokens hashing).hashing.settings salt
                            password with
                        | error e => exact .inr ⟨_, rfl⟩
                        | ok hash =>
                            simp only [commitReset, bind_apply, run_inMemory, Tables.run]
                            rcases consumeReset_cases t r u hash later with
                              ⟨q, claimed, free, consumed⟩ | gone
                            · rw [consumed]
                              exact .inl ⟨u, r, hash, ⟨⟨claims, valid, known⟩, behind, own, early,
                                unused, hashed, ⟨q, claimed, free⟩⟩, rfl⟩
                            · rw [gone]
                              exact .inr ⟨_, rfl⟩
              · rw [if_pos own]
                exact .inr ⟨_, rfl⟩

theorem resetPassword_step (token password : String) (now later : Timestamp) (salt : Bytes) :
    let answer := (inMemory tokens hashing).resetPassword token password now later salt t
    Step (inMemory tokens hashing) t (.resetPassword token password now later salt)
      (.change answer.1) answer.2 := by
  rcases resetPassword_cases tokens hashing t token password now later salt with
    ⟨u, r, hash, redeems, done⟩ | ⟨e, failed⟩
  · obtain ⟨claims, valid, known⟩ := redeems.named
    obtain ⟨q, claimed, free⟩ := redeems.free
    rw [done]
    exact .changed valid known redeems.behind redeems.own redeems.unused claimed free
  · rw [failed]
    exact .refused rfl nofun rfl

theorem step_serve (e : Event) :
    Step (inMemory tokens hashing) t e (e.serve (inMemory tokens hashing) t).1
      (e.serve (inMemory tokens hashing) t).2 := by
  cases e with
  | register email password role now draws => exact register_step ..
  | login email password client now draws => exact login_step ..
  | refresh token client now draws => exact refresh_step ..
  | logout token => exact logout_step ..
  | logoutAll userId => exact .allClosed
  | requestReset email now draws => exact requestReset_step ..
  | resetPassword token password now later salt => exact resetPassword_step ..
  | sweep now => exact .swept

end

end Gatehouse.Service
