import Gatehouse.Proofs.Atomicity
import Gatehouse.Proofs.Ownership
import Gatehouse.Proofs.PasswordReading

/-!
The password of a user is the one that was set last. Whatever is asked of the service, and
whichever requests to the store are lost, the digest in the row of a user is that of the password
with which the user registered, or of the last one that a reset of the user was used for.
-/

namespace Gatehouse.Service

open Account (User Session Reset)
open Store (Tables Watched Outage Call Method)

/-- A user was registered under an address. -/
def Registered (log : List (Event × Answer)) (email : String) (u : User) : Prop :=
  ∃ password role now draws, (.register email password role now draws, .user (.ok u)) ∈ log

/-- The password that an event sets for a user: the first by registering, another with a reset
token of the user. -/
def passwordSet? (c : Token.Config) (id : Uuid) : Event × Answer → Option String
  | (.register _ password _ _ _, .user (.ok u)) => if u.id = id then some password else none
  | (.resetPassword token password now _ _, .change (.ok _)) =>
      match c.validate .reset now.seconds token with
      | .ok claims => if claims.userId = id then some password else none
      | .error _ => none
  | _ => none

/-- The password of a user that was set last. -/
def lastPassword? (c : Token.Config) (id : Uuid) (log : List (Event × Answer)) : Option String :=
  (log.filterMap (passwordSet? c id)).getLast?

/-- The password that an event hashes, with the salt. -/
def Event.hashed? : Event → Option (String × Bytes)
  | .register _ password _ _ draws => some (password, draws.salt)
  | .resetPassword _ password _ _ salt => some (password, salt)
  | _ => none

section
variable {c : Token.Config} {id : Uuid} {log : List (Event × Answer)} {x : Event × Answer}

theorem lastPassword?_concat :
    lastPassword? c id (log ++ [x]) = (passwordSet? c id x).or (lastPassword? c id log) := by
  rw [lastPassword?, List.filterMap_append, List.getLast?_append, lastPassword?]
  cases set : passwordSet? c id x with
  | none =>
      rw [List.filterMap_cons_none set]
      rfl
  | some password =>
      rw [List.filterMap_cons_some set]
      rfl

theorem registered_concat {email : String} {u : User} : Registered (log ++ [x]) email u ↔
    Registered log email u ∨
      ∃ password role now draws, x = (.register email password role now draws, .user (.ok u)) := by
  simp only [Registered, List.mem_append, List.mem_singleton]
  constructor
  · rintro ⟨password, role, now, draws, earlier | rfl⟩
    · exact .inl ⟨password, role, now, draws, earlier⟩
    · exact .inr ⟨password, role, now, draws, rfl⟩
  · rintro (⟨password, role, now, draws, earlier⟩ | ⟨password, role, now, draws, rfl⟩)
    · exact ⟨password, role, now, draws, .inl earlier⟩
    · exact ⟨password, role, now, draws, .inr rfl⟩

theorem passwordSet?_of_not_isOk {e : Event} {a : Answer} (failed : a.isOk = false) :
    passwordSet? c id (e, a) = none := by
  cases a with
  | user r | change r =>
      cases r with
      | ok v => cases failed
      | error e' => cases e <;> rfl
  | pair | ended | count | token | swept => cases e <;> rfl

theorem passwordSet?_of_plain {e : Event} (plain : e.hashed? = none) (a : Answer) :
    passwordSet? c id (e, a) = none := by
  cases e with
  | register | resetPassword => cases plain
  | login | refresh | logout | logoutAll | requestReset | sweep => rfl

end

/-- What an event does to the users, and how it is then answered: nothing, unless a password is
set, of which the user then has the digest. -/
inductive Sets (c : Token.Config) (hashing : Password.Hasher) (t : Tables) :
    Event → Answer → Tables → Prop where
  | nothing {e a t'} (users : t'.users = t.users) (silent : ∀ id, passwordSet? c id (e, a) = none)
      (nobody : ∀ u, a ≠ .user (.ok u)) : Sets c hashing t e a t'
  | first {email password role now draws u t'} (users : t'.users = t.users ++ [u])
      (address : u.email = email) (new : t.user? u.id = none) (alone : t.userOf? u.email = none)
      (hashed : Password.hash hashing.settings draws.salt password = .ok u.passwordHash) :
      Sets c hashing t (.register email password role now draws) (.user (.ok u)) t'
  | another {token password now later salt claims hash t'} {o : Outcome}
      (valid : c.validate .reset now.seconds token = .ok claims)
      (hashed : Password.hash hashing.settings salt password = .ok hash)
      (users : t'.users = t.users.map fun v =>
        if v.id = claims.userId then rehashed v hash later else v) :
      Sets c hashing t (.resetPassword token password now later salt) (.change (.ok o)) t'

section
variable {c : Token.Config} {hashing : Password.Hasher} {t t' : Tables} {e : Event} {a : Answer}

theorem Sets.refused (failed : a.isOk = false) (users : t'.users = t.users) :
    Sets c hashing t e a t' := by
  refine .nothing users (fun _ => passwordSet?_of_not_isOk failed) ?_
  rintro u rfl
  cases failed

theorem Step.sets {s : Service (StateM Tables)} (step : Step s t e a t')
    (plain : e.hashed? = none) : Sets c hashing t e a t' := by
  have silent (id : Uuid) : passwordSet? c id (e, a) = none := passwordSet?_of_plain plain a
  cases step with
  | refused failed => exact .refused failed rfl
  | late | lapsed => exact .refused rfl rfl
  | registered | changed => cases plain
  | opened | renewed | absent | closed | allClosed | requested | swept =>
      exact .nothing rfl silent nofun

end

section
variable {tokens : Token.Config} {hashing : Password.Hasher} {t : Tables}

theorem register_sets (email password : String) (role : Option Account.Role) (now : Timestamp)
    (draws : Draws) :
    let answer := (inMemory tokens hashing).register email password role now draws t
    Sets tokens hashing t (.register email password role now draws) (.user answer.1)
      answer.2 := by
  rcases register_cases tokens hashing t email password role now draws with
    ⟨-, taken⟩ | ⟨alone, ⟨e, -, failed⟩ | ⟨hash, hashed, new, done⟩⟩
  · rw [taken]
    exact .refused rfl rfl
  · rw [failed]
    exact .refused rfl rfl
  · rw [done]
    exact .first rfl rfl new alone hashed

theorem users_withDigest {id : Uuid} {u : User} (known : t.user? id = some u) (r : Reset)
    (hash : String) (at_ : Timestamp) :
    (withDigest t r u hash at_).users
      = t.users.map fun v => if v.id = id then rehashed v hash at_ else v := by
  obtain ⟨-, rfl⟩ := mem_of_user? known
  rfl

theorem resetPassword_sets (token password : String) (now later : Timestamp) (salt : Bytes) :
    let answer := (inMemory tokens hashing).resetPassword token password now later salt t
    Sets tokens hashing t (.resetPassword token password now later salt) (.change answer.1)
      answer.2 := by
  rcases resetPassword_cases tokens hashing t token password now later salt with
    ⟨u, r, hash, redeems, done⟩ | ⟨e, failed⟩
  · obtain ⟨claims, valid, known⟩ := redeems.named
    rw [done]
    exact .another valid redeems.hashed (users_withDigest known r hash later)
  · rw [failed]
    exact .refused rfl rfl

theorem serve_sets (e : Event) :
    Sets tokens hashing t e (e.serve (inMemory tokens hashing) t).1
      (e.serve (inMemory tokens hashing) t).2 := by
  cases e with
  | register email password role now draws => exact register_sets ..
  | resetPassword token password now later salt => exact resetPassword_sets ..
  | login | refresh | logout | logoutAll | requestReset | sweep =>
      exact (step_serve tokens hashing t _).sets rfl

theorem Aftermath.sets {e : Event} {m : Method} {o : Outage} {a : Answer} {t' : Tables}
    (h : Aftermath tokens hashing t e m o a t') : Sets tokens hashing t e a t' := by
  cases h with
  | undone _ told =>
      refine .refused ?_ rfl
      cases a with
      | user r | pair r | ended r | count r | token r | change r =>
          cases r with
          | ok v => cases told
          | error e => rfl
      | swept report => cases told
  | lapsed => exact .refused rfl rfl
  | kept valid known behind own hashed =>
      exact .another valid hashed (users_withDigest known _ _ _)

/-- A sweep is not about users, whatever of it is lost. -/
theorem users_sweep (faults : Nat → Option Outage) (now : Timestamp) (w : Watched) :
    ((Event.sweep now).serve (overUnreliable tokens hashing faults) w).2.tables.users
      = w.tables.users := by
  have request (op : Store.Op Nat) (silent : ∀ t, (Tables.run op t).2.users = t.users)
      (w : Watched) : ((Store.unreliable faults).run op w).2.tables.users = w.tables.users := by
    cases fault : faults w.calls.length with
    | none =>
        rw [Store.run_of_reached fault]
        exact silent w.tables
    | some o => rw [Store.run_of_lost fault]
  exact (request (.deleteExpiredResets now) (fun _ => rfl) _).trans
    (request (.deleteExpiredSessions now) (fun _ => rfl) w)

/-- An event over a store of which requests may be lost sets a password or leaves the users. -/
theorem serve_sets_unreliable (faults : Nat → Option Outage) (w : Watched) (e : Event) :
    Sets tokens hashing w.tables e (e.serve (overUnreliable tokens hashing faults) w).1
      (e.serve (overUnreliable tokens hashing faults) w).2.tables := by
  cases asked : e.isSweep with
  | true =>
      cases e with
      | sweep now =>
          exact .nothing (users_sweep faults now w) (fun _ => rfl) nofun
      | register | login | refresh | logout | logoutAll | requestReset | resetPassword =>
          cases asked
  | false =>
      have tracks : Tracks w.tables (Aftermath tokens hashing w.tables e)
          (e.serve (inMemory tokens hashing)) (e.serve (overUnreliable tokens hashing faults)) :=
        serve_tracks asked
      obtain ⟨calls, -, ⟨-, same⟩ | ⟨made, m, o, -, -, ended⟩⟩ := tracks w rfl
      · have sets : Sets tokens hashing w.tables e (e.serve (inMemory tokens hashing) w.tables).1
            (e.serve (inMemory tokens hashing) w.tables).2 := serve_sets e
        rw [← same] at sets
        exact sets
      · exact ended.sets

end

/-- The digest of a user is that of the password that was set last, by an event of the log. -/
def IsCurrent (c : Token.Config) (hashing : Password.Hasher) (log : List (Event × Answer))
    (u : User) : Prop :=
  ∃ password salt, lastPassword? c u.id log = some password ∧
    Password.hash hashing.settings salt password = .ok u.passwordHash ∧
    ∃ x ∈ log, x.1.hashed? = some (password, salt)

/-- Every user has the digest of the password that was set last for them, and the users are those
that were registered. -/
structure Current (c : Token.Config) (hashing : Password.Hasher) (log : List (Event × Answer))
    (t : Tables) : Prop where
  ids : (t.users.map (·.id)).Nodup
  emails : (t.users.map (·.email)).Nodup
  set : ∀ u ∈ t.users, IsCurrent c hashing log u
  known : ∀ u ∈ t.users, ∃ v, Registered log u.email v ∧ v.id = u.id
  kept : ∀ email v, Registered log email v → ∃ u ∈ t.users, u.id = v.id ∧ u.email = email

section
variable {c : Token.Config} {hashing : Password.Hasher} {log : List (Event × Answer)}
  {t t' : Tables} {e : Event} {a : Answer}

theorem IsCurrent.pass {x : Event × Answer} {u : User} (h : IsCurrent c hashing log u)
    (silent : passwordSet? c u.id x = none) : IsCurrent c hashing (log ++ [x]) u := by
  obtain ⟨password, salt, last, hashed, y, hy, hashes⟩ := h
  refine ⟨password, salt, ?_, hashed, y, List.mem_append_left _ hy, hashes⟩
  rw [lastPassword?_concat, silent, last]
  rfl

theorem isCurrent_of_set {x : Event × Answer} {u : User} {password : String} {salt : Bytes}
    (set : passwordSet? c u.id x = some password) (hashes : x.1.hashed? = some (password, salt))
    (hashed : Password.hash hashing.settings salt password = .ok u.passwordHash) :
    IsCurrent c hashing (log ++ [x]) u := by
  refine ⟨password, salt, ?_, hashed, x, List.mem_append_right _ List.mem_cons_self, hashes⟩
  rw [lastPassword?_concat, set]
  rfl

theorem Current.ofUsers (h : Current c hashing log t) (users : t'.users = t.users) :
    Current c hashing log t' where
  ids := users ▸ h.ids
  emails := users ▸ h.emails
  set := users ▸ h.set
  known := users ▸ h.known
  kept := users ▸ h.kept

theorem Current.pass (h : Current c hashing log t)
    (silent : ∀ id, passwordSet? c id (e, a) = none) (nobody : ∀ u, a ≠ .user (.ok u)) :
    Current c hashing (log ++ [(e, a)]) t where
  ids := h.ids
  emails := h.emails
  set u hu := (h.set u hu).pass (silent u.id)
  known u hu := by
    obtain ⟨v, registered, same⟩ := h.known u hu
    exact ⟨v, registered_concat.2 (.inl registered), same⟩
  kept email v registered := by
    rcases registered_concat.1 registered with earlier | ⟨password, role, now, draws, last⟩
    · exact h.kept email v earlier
    · exact absurd (Prod.mk.inj last).2 (nobody v)

theorem Current.register (h : Current c hashing log t) {email password : String}
    {role : Option Account.Role} {now : Timestamp} {draws : Draws} {u : User}
    (users : t'.users = t.users ++ [u]) (address : u.email = email) (new : t.user? u.id = none)
    (alone : t.userOf? u.email = none)
    (hashed : Password.hash hashing.settings draws.salt password = .ok u.passwordHash) :
    Current c hashing
      (log ++ [(.register email password role now draws, .user (.ok u))]) t' := by
  have registered : Registered
      (log ++ [(.register email password role now draws, .user (.ok u))]) email u :=
    registered_concat.2 (.inr ⟨password, role, now, draws, rfl⟩)
  refine ⟨?_, ?_, ?_, ?_, ?_⟩
  · rw [users]
    exact nodup_concat h.ids new
  · rw [users]
    exact nodup_concat h.emails alone
  · rw [users]
    intro v hv
    rcases List.mem_append.1 hv with hv | hv
    -- who was there has another identifier, so nothing is set for them
    · have other : u.id ≠ v.id := fun same =>
        List.find?_eq_none.1 new v hv (decide_eq_true same.symm)
      exact (h.set v hv).pass (if_neg other)
    · rw [List.mem_singleton.1 hv]
      exact isCurrent_of_set (if_pos rfl) rfl hashed
  · rw [users]
    intro v hv
    rcases List.mem_append.1 hv with hv | hv
    · obtain ⟨w, earlier, same⟩ := h.known v hv
      exact ⟨w, registered_concat.2 (.inl earlier), same⟩
    · rw [List.mem_singleton.1 hv, address]
      exact ⟨u, registered, rfl⟩
  · rw [users]
    intro email' v registered'
    rcases registered_concat.1 registered' with earlier | ⟨password', role', now', draws', last⟩
    · obtain ⟨w, hw, same⟩ := h.kept email' v earlier
      exact ⟨w, List.mem_append_left _ hw, same⟩
    · obtain ⟨event, answer⟩ := Prod.mk.inj last
      cases event
      cases answer
      exact ⟨u, List.mem_append_right _ List.mem_cons_self, rfl, address⟩

theorem Current.change (h : Current c hashing log t) {token password hash : String}
    {now later : Timestamp} {salt : Bytes} {claims : Token.Claims} {o : Outcome}
    (valid : c.validate .reset now.seconds token = .ok claims)
    (hashed : Password.hash hashing.settings salt password = .ok hash)
    (users : t'.users = t.users.map fun v =>
      if v.id = claims.userId then rehashed v hash later else v) :
    Current c hashing
      (log ++ [(.resetPassword token password now later salt, .change (.ok o))]) t' := by
  have same {β : Type} (f : User → β) (hf : ∀ v, f (rehashed v hash later) = f v) :
      t'.users.map f = t.users.map f := users ▸ map_changed hf t.users
  have keeps (v : User) : (if v.id = claims.userId then rehashed v hash later else v).id = v.id ∧
      (if v.id = claims.userId then rehashed v hash later else v).email = v.email := by
    split <;> exact ⟨rfl, rfl⟩
  have sets (id : Uuid) :
      passwordSet? c id (.resetPassword token password now later salt, .change (.ok o))
        = if claims.userId = id then some password else none := by
    rw [passwordSet?, valid]
  refine ⟨?_, ?_, ?_, ?_, ?_⟩
  · rw [same (·.id) fun _ => rfl]
    exact h.ids
  · rw [same (·.email) fun _ => rfl]
    exact h.emails
  · rw [users]
    intro v' hv'
    obtain ⟨v, hv, rfl⟩ := List.mem_map.1 hv'
    by_cases own : v.id = claims.userId
    · rw [if_pos own]
      exact isCurrent_of_set ((sets v.id).trans (if_pos own.symm)) rfl hashed
    · rw [if_neg own]
      exact (h.set v hv).pass ((sets v.id).trans (if_neg (Ne.symm own)))
  · rw [users]
    intro v' hv'
    obtain ⟨v, hv, rfl⟩ := List.mem_map.1 hv'
    obtain ⟨w, registered, own⟩ := h.known v hv
    rw [(keeps v).1, (keeps v).2]
    exact ⟨w, registered_concat.2 (.inl registered), own⟩
  · rw [users]
    intro email v registered
    rcases registered_concat.1 registered with earlier | ⟨password', role, now', draws, last⟩
    · obtain ⟨w, hw, own, address⟩ := h.kept email v earlier
      exact ⟨_, List.mem_map_of_mem hw, (keeps w).1.trans own, (keeps w).2.trans address⟩
    · cases (Prod.mk.inj last).1

theorem Current.step (h : Current c hashing log t) (sets : Sets c hashing t e a t') :
    Current c hashing (log ++ [(e, a)]) t' := by
  cases sets with
  | nothing users silent nobody => exact (h.pass silent nobody).ofUsers users
  | first users address new alone hashed => exact h.register users address new alone hashed
  | another valid hashed users => exact h.change valid hashed users

theorem Current.not_registered (h : Current c hashing log t) {email : String}
    (unknown : t.userOf? email = none) (v : User) : ¬ Registered log email v := by
  intro registered
  obtain ⟨u, hu, -, address⟩ := h.kept email v registered
  exact List.find?_eq_none.1 unknown u hu (decide_eq_true address)

/-- A password has the digest of the user of an address if it is the one that was set last for
the user that was registered there. -/
theorem Current.verify_iff (h : Current c hashing log t) {email p : String} {u : User}
    (found : t.userOf? email = some u)
    (faithful : ∀ x ∈ log, ∀ password salt, x.1.hashed? = some (password, salt) →
      ∀ hash, Password.hash hashing.settings salt password = .ok hash →
        (Password.verify p hash = true ↔ p = password)) :
    Password.verify p u.passwordHash = true ↔
      ∃ v, Registered log email v ∧ lastPassword? c v.id log = some p := by
  obtain ⟨hu, rfl⟩ := mem_of_userOf? found
  obtain ⟨password, salt, last, hashed, x, hx, own⟩ := h.set u hu
  rw [faithful x hx password salt own _ hashed]
  constructor
  · rintro rfl
    obtain ⟨v, registered, same⟩ := h.known u hu
    exact ⟨v, registered, same ▸ last⟩
  · rintro ⟨v, registered, last'⟩
    obtain ⟨w, hw, same, address⟩ := h.kept _ _ registered
    obtain rfl : w = u := List.inj_on_of_nodup_map h.emails hw hu address
    rw [← same, last, Option.some.injEq] at last'
    exact last'.symm

end

section
variable {tokens : Token.Config} {hashing : Password.Hasher} {faults : Nat → Option Outage}

theorem run_overUnreliable {α : Type} (op : Store.Op α) :
    (overUnreliable tokens hashing faults).store.run op = (Store.unreliable faults).run op := rfl

/-- Requests that were answered, if only by telling that there is no such row. -/
def Answered (calls : List Call) : Prop :=
  ∀ call ∈ calls, call.failure = none ∨ call.failure = some .notFound

theorem not_answered (before made : List Call) (m : Method) {e : Store.Error}
    (other : e ≠ .notFound) :
    ¬ Answered ((before ++ (made ++ [Call.mk m (some e)])).drop before.length) := by
  rw [List.drop_left]
  intro answered
  rcases answered ⟨m, some e⟩ (by simp) with h | h
  · cases h
  · exact other (Option.some.inj h)

theorem error_ne_notFound (o : Outage) : o.error ≠ .notFound := by
  cases o with
  | unavailable | database =>
      intro same
      cases same

theorem conflict_ne_notFound : Store.Error.conflict ≠ .notFound := by
  intro same
  cases same

/-- The second request of a login: the session is opened, if the request does not fail. -/
theorem open_answer (x : Session) (pair : Pair) (before : List Call) (first : Call) (t : Tables) :
    let r := (do
      match ← (Store.unreliable faults).run (.createSession x) with
      | .ok () => pure (.ok pair)
      | .error e => pure (.error (.ofStore e)) : StateM Watched (Except Error Pair))
        ⟨t, before ++ [first]⟩
    Answered (r.2.calls.drop before.length) → r.1.isOk = true := by
  dsimp only
  rw [bind_apply]
  cases fault : faults (before ++ [first]).length with
  | some o =>
      rw [Store.run_of_lost fault, List.append_assoc]
      intro answered
      have failed := not_answered before [first] .createSession (error_ne_notFound o)
      cases o with
      | unavailable | database => exact absurd answered failed
  | none =>
      rw [Store.run_of_reached fault, Tables.run, List.append_assoc]
      rcases createSession_cases t x with ⟨-, created⟩ | conflict
      · rw [created]
        intro _
        rfl
      · rw [conflict]
        intro answered
        exact absurd answered (not_answered before [first] .createSession conflict_ne_notFound)

/-- A login of which no request fails is decided by the digest in the row of the user. -/
theorem login_answer (email p : String) (client : Account.Client) (now : Timestamp)
    (draws : Draws) (w : Watched) :
    let r := (overUnreliable tokens hashing faults).login email p client now draws w
    Answered (r.2.calls.drop w.calls.length) →
    (∃ u, w.tables.userOf? email = some u ∧ Password.verify p u.passwordHash = true ∧
      r.1.isOk = true) ∨
    ((∀ u, w.tables.userOf? email = some u → Password.verify p u.passwordHash = false) ∧
      r.1 = .error .invalidCredentials ∧ r.2.tables = w.tables) := by
  dsimp only
  rw [login_eq, bind_apply, run_overUnreliable]
  cases fault : faults w.calls.length with
  | some o =>
      rw [Store.run_of_lost fault]
      intro answered
      have failed := not_answered w.calls [] .userByEmail (error_ne_notFound o)
      cases o with
      | unavailable | database => exact absurd answered failed
  | none =>
      rw [Store.run_of_reached fault]
      simp only [Tables.run]
      cases known : w.tables.userOf? email with
      | none =>
          intro _
          refine .inr ⟨?_, rfl, rfl⟩
          intro u found
          cases found
      | some u =>
          simp only [Tables.orNotFound]
          cases matched : Password.verify p u.passwordHash with
          | false =>
              intro _
              refine .inr ⟨?_, rfl, rfl⟩
              rintro v ⟨⟩
              exact matched
          | true =>
              intro answered
              exact .inl ⟨u, rfl, matched, open_answer _ _ _ _ _ answered⟩

end

section
variable (tokens : Token.Config) (hashing : Password.Hasher) (faults : Nat → Option Outage)
  (es : List Event)

theorem current_logged :
    let ran := logged (overUnreliable tokens hashing faults) {} es
    Current tokens hashing ran.log ran.state.tables := by
  dsimp only
  induction es using List.reverseRecOn with
  | nil => exact ⟨.nil, .nil, nofun, nofun, nofun⟩
  | append_singleton es e ih =>
      rw [logged_concat]
      exact ih.step (serve_sets_unreliable faults _ e)

/-- After any run, in which requests to the store may be lost, a login none of whose requests
fails succeeds with one password only: the one that was set last for the user of the address. It
is refused otherwise, and then changes nothing. -/
theorem login_iff_lastPassword (email p : String) (client : Account.Client) (now : Timestamp)
    (draws : Draws)
    (faithful : ∀ e ∈ es, ∀ password salt, e.hashed? = some (password, salt) →
      ∀ hash, Password.hash hashing.settings salt password = .ok hash →
        (Password.verify p hash = true ↔ p = password)) :
    let s := overUnreliable tokens hashing faults
    let ran := logged s {} es
    let r := s.login email p client now draws ran.state
    Answered (r.2.calls.drop ran.state.calls.length) →
    (r.1.isOk = true ↔
      ∃ u, Registered ran.log email u ∧ lastPassword? tokens u.id ran.log = some p) ∧
    (r.1.isOk = false → r.1 = .error .invalidCredentials ∧ r.2.tables = ran.state.tables) := by
  intro s ran r answered
  have current : Current tokens hashing ran.log ran.state.tables :=
    current_logged tokens hashing faults es
  have faithful' : ∀ x ∈ ran.log, ∀ password salt, x.1.hashed? = some (password, salt) →
      ∀ hash, Password.hash hashing.settings salt password = .ok hash →
        (Password.verify p hash = true ↔ p = password) := by
    intro x hx
    refine faithful x.1 ?_
    rw [← events_logged s {} es]
    exact List.mem_map_of_mem hx
  rcases login_answer email p client now draws ran.state answered with
    ⟨u, found, matched, ok⟩ | ⟨unmatched, refused, unchanged⟩
  · have ok : r.1.isOk = true := ok
    refine ⟨iff_of_true ok ((current.verify_iff found faithful').1 matched), fun failed => ?_⟩
    rw [ok] at failed
    cases failed
  · have refused : r.1 = .error .invalidCredentials := refused
    refine ⟨iff_of_false ?_ ?_, fun _ => ⟨refused, unchanged⟩⟩
    · rw [refused]
      exact Bool.false_ne_true
    · rintro ⟨v, registered, last⟩
      cases found : ran.state.tables.userOf? email with
      | none => exact current.not_registered found v registered
      | some u =>
          have matched := (current.verify_iff found faithful').2 ⟨v, registered, last⟩
          rw [unmatched u found] at matched
          cases matched

end

/-- While the store is reached, the requests of a login with the right password do not fail. -/
theorem answered_login (tokens : Token.Config) (hashing : Password.Hasher)
    {faults : Nat → Option Outage} {email p : String} (client : Account.Client) (now : Timestamp)
    {draws : Draws} {w : Watched} {u : User} (known : w.tables.userOf? email = some u)
    (matched : Password.verify p u.passwordHash = true)
    (new : w.tables.session? draws.record = none)
    (reached : ∀ n, w.calls.length ≤ n → faults n = none) :
    Answered (((overUnreliable tokens hashing faults).login email p client now draws w).2.calls.drop
      w.calls.length) := by
  rw [login_eq, bind_apply, run_overUnreliable]
  rw [Store.run_of_reached (reached _ (Nat.le_refl _))]
  simp only [Tables.run, known, Tables.orNotFound, matched, Bool.not_true, Bool.false_eq_true,
    if_false]
  rw [bind_apply, run_overUnreliable, Store.run_of_reached (reached _ (by simp)), Tables.run,
    createSession_of_new new, List.append_assoc]
  refine (List.drop_left).symm ▸ ?_
  simp [Answered, Store.failureOf]

/-- A user registers, the first request being lost, and logs in. -/
theorem login_iff_lastPassword_registered :
    let down := Outage.unavailable "down"
    let faults (n : Nat) := if n = 0 then some down else none
    let s := overUnreliable sampleTokens {} faults
    let register := Event.register "a@b.cd" "first" none ⟨0, 0⟩ ⟨⟨0⟩, ⟨0⟩, sampleUser, sampleSalt⟩
    let es := [register, register]
    let client : Account.Client := ⟨"", ""⟩
    let draws : Draws := ⟨⟨2⟩, ⟨3⟩, ⟨4⟩, []⟩
    (∀ e ∈ es, ∀ password salt, e.hashed? = some (password, salt) →
      ∀ hash, Password.hash {} salt password = .ok hash →
        (Password.verify "first" hash = true ↔ "first" = password)) ∧
    ∃ ran, ran = logged s {} es ∧
      let r := s.login "a@b.cd" "first" client ⟨10, 0⟩ draws ran.state
      Answered (r.2.calls.drop ran.state.calls.length) ∧ r.1.isOk = true := by
  intro down faults s register es client draws
  have right {hash : String} (hashed : Password.hash {} sampleSalt "first" = .ok hash) :
      Password.verify "first" hash = true :=
    Password.verify_hash hashed (by decide) (by decide)
  have faithful : ∀ e ∈ es, ∀ password salt, e.hashed? = some (password, salt) →
      ∀ hash, Password.hash {} salt password = .ok hash →
        (Password.verify "first" hash = true ↔ "first" = password) := by
    intro e he password salt hashes hash hashed
    obtain rfl : e = register := by simpa [es] using he
    obtain ⟨rfl, rfl⟩ := Prod.mk.inj (Option.some.inj hashes)
    exact iff_of_true (right hashed) rfl
  obtain ⟨u, address, hashed, all⟩ : ∃ u : User, u.email = "a@b.cd" ∧
      Password.hash {} sampleSalt "first" = .ok u.passwordHash ∧
      logged s {} es = ⟨⟨⟨[u], [], []⟩, [⟨.userByEmail, some down.error⟩,
          ⟨.userByEmail, some .notFound⟩, ⟨.createUser, none⟩]⟩,
        [(register, .user (.error (.ofStore down.error))), (register, .user (.ok u))]⟩ :=
    ⟨⟨sampleUser, "a@b.cd", _, .user, ⟨0, 0⟩, ⟨0, 0⟩⟩, rfl, rfl, rfl⟩
  have decided := login_iff_lastPassword sampleTokens {} faults es "a@b.cd" "first" client
    ⟨10, 0⟩ draws faithful
  refine ⟨faithful, logged s {} es, rfl, ?_⟩
  dsimp only at decided ⊢
  generalize logged (overUnreliable sampleTokens {} faults) {} es = ran at all decided ⊢
  have known : ran.state.tables.userOf? "a@b.cd" = some u := by
    rw [all, Tables.userOf?, List.find?_cons_of_pos (by simp [address])]
  have new : ran.state.tables.session? draws.record = none := by
    rw [all]
    rfl
  have reached (n : Nat) (hn : ran.state.calls.length ≤ n) : faults n = none := by
    rw [all] at hn
    exact if_neg (Nat.ne_of_gt (Nat.lt_of_lt_of_le (Nat.succ_pos 2) hn))
  have last : lastPassword? sampleTokens u.id ran.log = some "first" := by
    rw [all, lastPassword?]
    simp [passwordSet?, register]
  have registered : Registered ran.log "a@b.cd" u := by
    rw [all]
    exact ⟨"first", none, ⟨0, 0⟩, _, List.mem_cons_of_mem _ List.mem_cons_self⟩
  have answered := answered_login sampleTokens {} client ⟨10, 0⟩ known (right hashed) new reached
  exact ⟨answered, (decided answered).1.2 ⟨u, registered, last⟩⟩

end Gatehouse.Service
