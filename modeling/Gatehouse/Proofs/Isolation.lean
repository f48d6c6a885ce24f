import Gatehouse.Proofs.Sweeping

/-!
Whose rows an event touches: those of one user, whom the address, the token, the session or the
caller names. The rows of all others stay as they are, however the event is answered. Renewing
and ending a session take away that session alone.
-/

namespace Gatehouse.Service

open Account (User Session Reset)
open Store (Tables)

/-- The rows of one user. -/
def rowsOf (t : Tables) (id : Uuid) : Tables where
  users := t.users.filter (·.id = id)
  sessions := t.sessions.filter (·.userId = id)
  resets := t.resets.filter (·.userId = id)

/-- The user that an event is about. A token that is not accepted names nobody. -/
def Event.owner? (tokens : Token.Config) (t : Tables) : Event → Option Uuid
  | .register _ _ _ _ draws => some draws.record
  | .login email .. => (t.userOf? email).map (·.id)
  | .refresh token _ now _ =>
      (tokens.validate .refresh now.seconds token).toOption.map (·.userId)
  | .logout token => (t.sessionOf? token).map (·.userId)
  | .logoutAll userId => some userId
  | .requestReset email .. => (t.userOf? email).map (·.id)
  | .resetPassword token _ now .. =>
      (tokens.validate .reset now.seconds token).toOption.map (·.userId)
  | .sweep _ => none

/-- The token whose session is renewed or ended. -/
def Event.presented? : Event → Option String
  | .refresh token .. => some token
  | .logout token => some token
  | _ => none

section
variable {t : Tables} {id : Uuid}

theorem rowsOf_withUser {u : User} (other : u.id ≠ id) :
    rowsOf (withUser t u) id = rowsOf t id := by
  simp [rowsOf, withUser, other]

theorem rowsOf_withSession {x : Session} (other : x.userId ≠ id) :
    rowsOf (withSession t x) id = rowsOf t id := by
  simp [rowsOf, withSession, other]

theorem rowsOf_withReset {r : Reset} (other : r.userId ≠ id) :
    rowsOf (withReset t r) id = rowsOf t id := by
  simp [rowsOf, withReset, other]

theorem rowsOf_withoutSessionsOf {userId : Uuid} (other : userId ≠ id) :
    rowsOf (withoutSessionsOf t userId) id = rowsOf t id := by
  have same : (t.sessions.filter (·.userId ≠ userId)).filter (·.userId = id)
      = t.sessions.filter (·.userId = id) := by
    rw [List.filter_filter]
    refine List.filter_congr fun y _ => ?_
    by_cases own : y.userId = id
    · simp [own, Ne.symm other]
    · simp [own]
  simp only [rowsOf, withoutSessionsOf, same]

theorem rowsOf_withoutSession (unique : (t.sessions.map (·.id)).Nodup) {x : Session}
    (hx : x ∈ t.sessions) (other : x.userId ≠ id) :
    rowsOf (withoutSession t x.id) id = rowsOf t id := by
  have same : (t.sessions.filter (·.id ≠ x.id)).filter (·.userId = id)
      = t.sessions.filter (·.userId = id) := by
    rw [List.filter_filter]
    refine List.filter_congr fun y hy => ?_
    by_cases own : y.userId = id
    · have apart : y.id ≠ x.id := fun same =>
        other (List.inj_on_of_nodup_map unique hy hx same ▸ own)
      simp [own, apart]
    · simp [own]
  simp only [rowsOf, withoutSession, same]

theorem filter_changed {α : Type} {p q : α → Prop} [DecidablePred p] [DecidablePred q] {g : α → α}
    (keeps : ∀ x, q (g x) ↔ q x) {xs : List α} (apart : ∀ x ∈ xs, p x → ¬ q x) :
    (xs.map fun x => if p x then g x else x).filter q = xs.filter q := by
  induction xs with
  | nil => rfl
  | cons x xs ih =>
      have rest := ih fun y hy => apart y (List.mem_cons_of_mem x hy)
      have first := apart x List.mem_cons_self
      rw [List.map_cons, List.filter_cons, List.filter_cons, rest]
      by_cases changed : p x
      · simp [changed, keeps, first changed]
      · simp [changed]

theorem rowsOf_withDigest (unique : (t.resets.map (·.id)).Nodup) {r : Reset} (hr : r ∈ t.resets)
    {u : User} (own : r.userId = u.id) (other : u.id ≠ id) (hash : String) (at_ : Timestamp) :
    rowsOf (withDigest t r u hash at_) id = rowsOf t id := by
  have users : (withDigest t r u hash at_).users.filter (·.id = id)
      = t.users.filter (·.id = id) := by
    refine filter_changed (p := fun v : User => v.id = u.id) (q := fun v : User => v.id = id)
      (g := fun v => { v with passwordHash := hash, updatedAt := at_ }) (fun _ => Iff.rfl) ?_
    intro v _ same own
    exact other (same.symm.trans own)
  have resets : (withDigest t r u hash at_).resets.filter (·.userId = id)
      = t.resets.filter (·.userId = id) := by
    refine filter_changed (p := fun q : Reset => q.id = r.id) (q := fun q : Reset => q.userId = id)
      (g := fun q => { q with usedAt := some at_ }) (fun _ => Iff.rfl) ?_
    intro q hq same theirs
    rw [List.inj_on_of_nodup_map unique hq hr same, own] at theirs
    exact other theirs
  have sessions : (withDigest t r u hash at_).sessions = t.sessions := rfl
  simp only [rowsOf, users, resets, sessions]

end

section
variable (tokens : Token.Config) (hashing : Password.Hasher) {t : Tables} {e : Event}

/-- A session of somebody else is left alone, though the token be accepted. -/
theorem refresh_of_other {token : String} {now : Timestamp} {claims : Token.Claims} {x : Session}
    (valid : tokens.validate .refresh now.seconds token = .ok claims)
    (behind : t.sessionOf? token = some x) (other : x.userId ≠ claims.userId)
    (client : Account.Client) (draws : Draws) :
    ((inMemory tokens hashing).refresh token client now draws t).2 = t := by
  simp only [refresh, tokens_inMemory, valid, user, bind_apply, run_inMemory, Tables.run]
  cases known : t.user? claims.userId with
  | none => rfl
  | some u =>
      have id : u.id = claims.userId := (mem_of_user? known).2
      simp only [Tables.orNotFound, pure_apply, bind_apply, run_inMemory, Tables.run, behind]
      rw [if_pos (id ▸ other)]
      rfl

theorem rowsOf_serve (sessions : (t.sessions.map (·.id)).Nodup)
    (resets : (t.resets.map (·.id)).Nodup) (asked : e.isSweep = false) {id : Uuid}
    (other : e.owner? tokens t ≠ some id) :
    rowsOf (e.serve (inMemory tokens hashing) t).2 id = rowsOf t id := by
  have step := step_serve tokens hashing t e
  generalize served : e.serve (inMemory tokens hashing) t = result at step
  obtain ⟨a, t'⟩ := result
  dsimp only at step ⊢
  cases step with
  | refused | late | absent => rfl
  | registered record =>
      refine rowsOf_withUser fun same => other ?_
      rw [Event.owner?, ← same, record]
  | opened known =>
      refine rowsOf_withSession fun same => other ?_
      rw [Event.owner?, known, ← same]
      rfl
  | @lapsed token client now draws claims x valid behind =>
      by_cases own : x.userId = claims.userId
      · refine rowsOf_withoutSession sessions (mem_of_sessionOf? behind).1 fun same => other ?_
        rw [tokens_inMemory] at valid
        rw [Event.owner?, valid, ← same, own]
        rfl
      · have kept := refresh_of_other tokens hashing valid behind own client draws
        have left : withoutSession t x.id = t := (congrArg Prod.snd served).symm.trans kept
        rw [left]
  | @renewed token client now draws claims u x valid known behind own =>
      have ne : u.id ≠ id := fun same => other (by
        rw [tokens_inMemory] at valid
        rw [Event.owner?, valid, ← same, (mem_of_user? known).2]
        rfl)
      rw [rowsOf_withSession ne,
        rowsOf_withoutSession sessions (mem_of_sessionOf? behind).1 (own ▸ ne)]
  | closed behind =>
      refine rowsOf_withoutSession sessions (mem_of_sessionOf? behind).1 fun same => other ?_
      rw [Event.owner?, behind, ← same]
      rfl
  | allClosed => exact rowsOf_withoutSessionsOf fun same => other (congrArg some same)
  | requested known =>
      refine rowsOf_withReset fun same => other ?_
      rw [Event.owner?, known, ← same]
      rfl
  | @changed token password now later salt claims u r q hash valid known behind own =>
      have ne : u.id ≠ id := fun same => other (by
        rw [tokens_inMemory] at valid
        rw [Event.owner?, valid, ← same, (mem_of_user? known).2]
        rfl)
      rw [rowsOf_withoutSessionsOf ne,
        rowsOf_withDigest resets (mem_of_resetOf? behind).1 own ne]
  | swept => cases asked

end

section
variable {s : Service (StateM Tables)} {t t' : Tables} {e : Event} {a : Answer}

theorem Step.register_adds {email password : String} {role : Option Account.Role}
    {now : Timestamp} {draws : Draws}
    (step : Step s t (.register email password role now draws) a t') :
    t' = t ∨ ∃ u, t.user? u.id = none ∧ t' = withUser t u := by
  cases step with
  | refused => exact .inl rfl
  | registered id address new => exact .inr ⟨_, id ▸ new, rfl⟩

theorem mem_withoutSession (unique : (t.sessions.map (·.id)).Nodup) {token : String}
    {x y : Session} (behind : t.sessionOf? token = some y) (hx : x ∈ t.sessions)
    (other : t.sessionOf? token ≠ some x) : x ∈ (withoutSession t y.id).sessions := by
  refine List.mem_filter.2 ⟨hx, decide_eq_true fun same => other ?_⟩
  rw [behind, List.inj_on_of_nodup_map unique hx (mem_of_sessionOf? behind).1 same]

theorem Step.mem_sessions (step : Step s t e a t') (unique : (t.sessions.map (·.id)).Nodup)
    {token : String} (presented : e.presented? = some token) {x : Session} (hx : x ∈ t.sessions)
    (other : t.sessionOf? token ≠ some x) : x ∈ t'.sessions := by
  cases step with
  | refused | late | absent => exact hx
  | lapsed valid behind =>
      cases presented
      exact mem_withoutSession unique behind hx other
  | renewed valid known behind =>
      cases presented
      exact List.mem_append_left _ (mem_withoutSession unique behind hx other)
  | closed behind =>
      cases presented
      exact mem_withoutSession unique behind hx other
  | registered | opened | allClosed | requested | changed | swept => cases presented

end

section
variable (tokens : Token.Config) (hashing : Password.Hasher)

theorem nodup_history (es : List Event) :
    ((history (inMemory tokens hashing) es).tables.sessions.map (·.id)).Nodup ∧
      ((history (inMemory tokens hashing) es).tables.resets.map (·.id)).Nodup := by
  induction es using List.reverseRecOn with
  | nil => exact ⟨.nil, .nil⟩
  | append_singleton es e ih =>
      have step := step_history tokens hashing es e
      exact ⟨step.nodup_sessions ih.1, step.nodup_resets ih.2⟩

/-- In every state that a run reaches, an event leaves all rows of all users but one as they are,
whether it succeeds or not: the one whose address is given, whom a token names that is accepted,
whose session is ended, or who is named. A registration changes no row that is there; and a token
that is renewed or ended takes no session away but the one behind it. -/
theorem user_isolation (es : List Event) {e : Event} (asked : e.isSweep = false) :
    let t := (history (inMemory tokens hashing) es).tables
    let t' := (history (inMemory tokens hashing) (es ++ [e])).tables
    (∀ id, e.owner? tokens t ≠ some id → rowsOf t' id = rowsOf t id) ∧
    (∀ email password role now draws, e = .register email password role now draws →
      t' = t ∨ ∃ u, t.user? u.id = none ∧ t' = withUser t u) ∧
    ∀ token, e.presented? = some token → ∀ x ∈ t.sessions, t.sessionOf? token ≠ some x →
      x ∈ t'.sessions := by
  intro t t'
  obtain ⟨sessions, resets⟩ := nodup_history tokens hashing es
  have step := step_history tokens hashing es e
  refine ⟨?_, ?_, ?_⟩
  · intro id other
    have same := rowsOf_serve tokens hashing sessions resets asked other
    have after : t' = (e.serve (inMemory tokens hashing) t).2 := by
      simp only [t', history_concat]
      rfl
    rw [after]
    exact same
  · intro email password role now draws same
    subst same
    exact step.register_adds
  · intro token presented x hx other
    exact step.mem_sessions sessions presented hx other

end

/-- A password is changed with a reset token; another user has registered before. -/
theorem user_isolation_change :
    let other := Event.register "c@d.ef" "other" none ⟨12, 0⟩ ⟨⟨7⟩, ⟨8⟩, ⟨9⟩, sampleSalt⟩
    let change := Event.resetPassword sampleToken "second" ⟨20, 0⟩ ⟨21, 0⟩ sampleSalt
    let run := sampleRun ++ [other]
    let t := (history (inMemory sampleTokens {}) run).tables
    let t' := (history (inMemory sampleTokens {}) (run ++ [change])).tables
    change.isSweep = false ∧ change.owner? sampleTokens t = some sampleUser ∧
      rowsOf t' ⟨9⟩ = rowsOf t ⟨9⟩ := by
  intro other change run t t'
  have owner : change.owner? sampleTokens t = some sampleUser := by
    have valid : sampleTokens.validate .reset (Timestamp.mk 20 0).seconds sampleToken
        = .ok sampleClaims := sampleTokens_validate (by decide) (by decide)
    rw [Event.owner?, valid]
    rfl
  have ne : change.owner? sampleTokens t ≠ some ⟨9⟩ := by
    rw [owner]
    decide
  exact ⟨rfl, owner, (user_isolation sampleTokens {} run rfl).1 ⟨9⟩ ne⟩

end Gatehouse.Service
