import Gatehouse.Proofs.Atomicity
import Gatehouse.Proofs.Ownership

/-!
Nobody notices a sweep. Two runs of the same events, one of them with sweeps in between, reach
tables that differ by rows past their time; and an event treats such a row as it treats one that
is not there, but for the reason that it gives when it refuses.
-/

namespace Gatehouse

/-- The same list without some of its elements, which are all gone. -/
inductive Thinned {α : Type} (gone : α → Prop) : List α → List α → Prop where
  | nil : Thinned gone [] []
  | keep {x xs ys} (rest : Thinned gone xs ys) : Thinned gone (x :: xs) (x :: ys)
  | drop {x xs ys} (past : gone x) (rest : Thinned gone xs ys) : Thinned gone (x :: xs) ys

section
variable {α β : Type} {gone gone' : α → Prop} {xs ys : List α}

theorem Thinned.refl (xs : List α) : Thinned gone xs xs := by
  induction xs with
  | nil => exact .nil
  | cons x xs ih => exact .keep ih

theorem Thinned.sublist (h : Thinned gone xs ys) : ys.Sublist xs := by
  induction h with
  | nil => exact .slnil
  | keep _ ih => exact .cons_cons _ ih
  | drop _ _ ih => exact .cons _ ih

theorem Thinned.mono (h : Thinned gone xs ys) (weaker : ∀ x, gone x → gone' x) :
    Thinned gone' xs ys := by
  induction h with
  | nil => exact .nil
  | keep _ ih => exact .keep ih
  | drop past _ ih => exact .drop (weaker _ past) ih

theorem Thinned.concat (h : Thinned gone xs ys) (x : α) :
    Thinned gone (xs ++ [x]) (ys ++ [x]) := by
  induction h with
  | nil => exact .refl _
  | keep _ ih => exact .keep ih
  | drop past _ ih => exact .drop past ih

theorem Thinned.map (h : Thinned gone xs ys) {f : α → α} (stays : ∀ x, gone x → gone (f x)) :
    Thinned gone (xs.map f) (ys.map f) := by
  induction h with
  | nil => exact .nil
  | keep _ ih => exact .keep ih
  | drop past _ ih => exact .drop (stays _ past) ih

theorem Thinned.filter (h : Thinned gone xs ys) (p : α → Bool) :
    Thinned gone (xs.filter p) (ys.filter p) := by
  induction h with
  | nil => exact .nil
  | @keep x xs ys _ ih =>
      cases hx : p x with
      | true =>
          rw [List.filter_cons_of_pos hx, List.filter_cons_of_pos hx]
          exact .keep ih
      | false =>
          rw [List.filter_cons_of_neg (Bool.eq_false_iff.1 hx),
            List.filter_cons_of_neg (Bool.eq_false_iff.1 hx)]
          exact ih
  | @drop x xs ys past _ ih =>
      cases hx : p x with
      | true =>
          rw [List.filter_cons_of_pos hx]
          exact .drop past ih
      | false =>
          rw [List.filter_cons_of_neg (Bool.eq_false_iff.1 hx)]
          exact ih

/-- More may be left out, if it is gone. -/
theorem Thinned.sweep (h : Thinned gone xs ys) {p : α → Bool} (swept : ∀ x, p x = false → gone x) :
    Thinned gone xs (ys.filter p) := by
  induction h with
  | nil => exact .nil
  | @keep x xs ys _ ih =>
      cases hx : p x with
      | true =>
          rw [List.filter_cons_of_pos hx]
          exact .keep ih
      | false =>
          rw [List.filter_cons_of_neg (Bool.eq_false_iff.1 hx)]
          exact .drop (swept x hx) ih
  | drop past _ ih => exact .drop past ih

/-- What is not gone is the same. -/
theorem Thinned.filter_eq (h : Thinned gone xs ys) {p : α → Bool}
    (lost : ∀ x, gone x → p x = false) : ys.filter p = xs.filter p := by
  induction h with
  | nil => rfl
  | @keep x xs ys _ ih => rw [List.filter_cons, List.filter_cons, ih]
  | drop past _ ih => rw [List.filter_cons_of_neg (Bool.eq_false_iff.1 (lost _ past)), ih]

/-- Behind a key is the same element, or one that is gone. -/
theorem Thinned.find?_cases [DecidableEq β] {key : α → β} (h : Thinned gone xs ys)
    (unique : (xs.map key).Nodup) (k : β) :
    ys.find? (key · = k) = xs.find? (key · = k) ∨
    ∃ x, xs.find? (key · = k) = some x ∧ gone x ∧ ys.find? (key · = k) = none := by
  induction h with
  | nil => exact .inl rfl
  | @keep x xs ys _ ih =>
      rw [List.find?_cons, List.find?_cons]
      cases decide (key x = k) with
      | true => exact .inl rfl
      | false => exact ih (List.nodup_cons.1 unique).2
  | @drop x xs ys past rest ih =>
      rw [List.find?_cons]
      cases own : decide (key x = k) with
      | false => exact ih (List.nodup_cons.1 unique).2
      | true =>
          refine .inr ⟨x, rfl, past, List.find?_eq_none.2 fun y hy same => ?_⟩
          have other := (List.nodup_cons.1 unique).1
          rw [of_decide_eq_true own, ← of_decide_eq_true same] at other
          exact other (List.mem_map_of_mem (rest.sublist.subset hy))

end

end Gatehouse

namespace Gatehouse.Service

open Account (User Session Reset)
open Store (Tables)

/-- The tables after events. -/
def reached (s : Service (StateM Tables)) (t : Tables) (es : List Event) : Tables :=
  (logged s t es).state

theorem reached_concat (s : Service (StateM Tables)) (t : Tables) (es : List Event) (e : Event) :
    reached s t (es ++ [e]) = (e.serve s (reached s t es)).2 := by
  rw [reached, logged_concat, reached]

/-- Rows are told apart by their identifiers, and those with tokens by these. -/
structure Unambiguous (t : Tables) : Prop extends Tables.Keyed t where
  sessionTokens : (sessionTokens t).Nodup

/-- No session and no reset has one of the identifiers, or a token that is issued with one. -/
structure Unmet (c : Token.Config) (ids : List Uuid) (t : Tables) : Prop where
  sessions : ∀ x ∈ t.sessions, x.id ∉ ids
  resets : ∀ r ∈ t.resets, r.id ∉ ids
  sessionTokens : ∀ token ∈ sessionTokens t, ¬ Issued c ids token
  resetTokens : ∀ token ∈ resetTokens t, ¬ Issued c ids token

section
variable {s : Service (StateM Tables)} {t t' : Tables} {e : Event} {a : Answer} {ids : List Uuid}

theorem Unmet.subset {c : Token.Config} {ids' : List Uuid} (h : Unmet c ids t)
    (sub : ids' ⊆ ids) : Unmet c ids' t where
  sessions x hx hid := h.sessions x hx (sub hid)
  resets r hr hid := h.resets r hr (sub hid)
  sessionTokens token ht issued := h.sessionTokens token ht (issued.mono sub)
  resetTokens token ht issued := h.resetTokens token ht (issued.mono sub)

theorem Unmet.session? {c : Token.Config} (h : Unmet c ids t) {id : Uuid} (hid : id ∈ ids) :
    t.session? id = none :=
  List.find?_eq_none.2 fun x hx same => h.sessions x hx (of_decide_eq_true same ▸ hid)

theorem Unmet.step (h : Unmet s.tokens ids t) (step : Step s t e a t')
    (apart : e.drawn.Disjoint ids) : Unmet s.tokens ids t' := by
  refine ⟨?_, ?_, ?_, ?_⟩
  · intro x hx
    rcases step.session_of_mem hx with hx | ⟨u, client, now, draws, rfl, -, -, drawn⟩
    · exact h.sessions x hx
    · exact fun hid => apart drawn hid
  · intro r hr
    rcases step.reset_of_mem hr with ⟨q, hq, same, -, -⟩ | ⟨u, now, draws, rfl, -, -, drawn⟩
    · exact same ▸ h.resets q hq
    · exact fun hid => apart drawn hid
  · intro token ht issued
    rcases step.turnover_sessions.mem ht with ht | drawn
    · exact h.sessionTokens token ht issued
    · exact drawn.disjoint issued apart
  · intro token ht issued
    rcases step.turnover_resets.mem ht with ht | drawn
    · exact h.resetTokens token ht issued
    · exact drawn.disjoint issued apart

theorem Step.nodup_sessions (step : Step s t e a t') (h : (t.sessions.map (·.id)).Nodup) :
    (t'.sessions.map (·.id)).Nodup := by
  cases step with
  | refused | registered | late | absent | requested => exact h
  | lapsed | closed | allClosed | changed | swept =>
      exact h.sublist (List.filter_sublist.map _)
  | opened known new => exact nodup_concat h new
  | @renewed token client now draws claims u x valid known behind own lasting new =>
      refine nodup_concat (h.sublist (List.filter_sublist.map _)) ?_
      refine List.find?_eq_none.2 fun y hy same => ?_
      obtain ⟨hy, other⟩ := List.mem_filter.1 hy
      have id : y.id = draws.record := of_decide_eq_true same
      rcases new with same | free
      · exact of_decide_eq_true other (id.trans same)
      · exact List.find?_eq_none.1 free y hy (decide_eq_true id)

theorem Unambiguous.step (h : Unambiguous t) (step : Step s t e a t')
    (unmet : Unmet s.tokens e.drawn t) : Unambiguous t' where
  sessions := step.nodup_sessions h.sessions
  resets := step.nodup_resets h.resets
  tokens := step.turnover_resets.nodup_of_new unmet.resetTokens h.tokens
  sessionTokens := step.turnover_sessions.nodup_of_new unmet.sessionTokens h.sessionTokens

end

section
variable (tokens : Token.Config) (hashing : Password.Hasher) {t : Tables} {es : List Event}

theorem unmet_reached {ids : List Uuid} (unmet : Unmet tokens ids t)
    (apart : (drawnBy es).Disjoint ids) :
    Unmet tokens ids (reached (inMemory tokens hashing) t es) := by
  induction es using List.reverseRecOn with
  | nil => exact unmet
  | append_singleton es e ih =>
      rw [drawnBy_concat, List.disjoint_append_left] at apart
      rw [reached_concat]
      exact (ih apart.1).step (step_serve tokens hashing _ e) apart.2

/-- What is drawn next is met nowhere. -/
theorem unmet_next {e : Event} (unmet : Unmet tokens (drawnBy (es ++ [e])) t)
    (distinct : Distinct (es ++ [e])) :
    Unmet tokens e.drawn (reached (inMemory tokens hashing) t es) := by
  refine unmet_reached tokens hashing (unmet.subset ?_) distinct.disjoint
  rw [drawnBy_concat]
  exact List.subset_append_right _ _

theorem unambiguous_reached (unique : Unambiguous t) (unmet : Unmet tokens (drawnBy es) t)
    (distinct : Distinct es) : Unambiguous (reached (inMemory tokens hashing) t es) := by
  induction es using List.reverseRecOn with
  | nil => exact unique
  | append_singleton es e ih =>
      have earlier := unmet.subset
        (drawnBy_concat es e ▸ List.subset_append_left (drawnBy es) e.drawn)
      rw [reached_concat]
      exact (ih earlier distinct.init).step (step_serve tokens hashing _ e)
        (unmet_next tokens hashing unmet distinct)

end

/-- The answers of two runs to an event, of which the second may have been swept. They are the
same, but for the number of sessions that are ended, and for what is told of a session or a reset
that is past its time. -/
inductive Alike : Event → Answer → Answer → Prop where
  | same {e a} : Alike e a a
  | counted {userId n n'} : Alike (.logoutAll userId) (.count (.ok n)) (.count (.ok n'))
  | lapsed {token client now draws} : Alike (.refresh token client now draws)
      (.pair (.error .tokenExpired)) (.pair (.error .invalidSession))
  | expired {token password now later salt} :
      Alike (.resetPassword token password now later salt)
        (.change (.error .passwordResetExpired)) (.change (.error .invalidToken))
  | used {token password now later salt} :
      Alike (.resetPassword token password now later salt)
        (.change (.error .passwordResetUsed)) (.change (.error .invalidToken))

theorem Alike.isOk_eq {e : Event} {a a' : Answer} (h : Alike e a a') : a'.isOk = a.isOk := by
  cases h <;> rfl

/-- The session was expired at one of the times. -/
def IsPast (past : List Timestamp) (x : Session) : Prop := ∃ p ∈ past, x.isExpired p = true

/-- The reset could not be used at one of the times. -/
def IsSpent (past : List Timestamp) (r : Reset) : Prop :=
  ∃ p ∈ past, Tables.isClaimable r p = false

/-- The second tables lack rows of the first, which were past their time already at one of the
times. -/
structure Veiled (past : List Timestamp) (t t' : Tables) : Prop where
  users : t'.users = t.users
  sessions : Thinned (IsPast past) t.sessions t'.sessions
  resets : Thinned (IsSpent past) t.resets t'.resets

section
variable {past : List Timestamp} {now : Timestamp} {x : Session} {r : Reset}

theorem IsPast.isExpired (h : IsPast past x) (late : ∀ p ∈ past, p ≤ now) :
    x.isExpired now = true := by
  obtain ⟨p, hp, expired⟩ := h
  exact decide_eq_true (Timestamp.lt_of_lt_of_le (of_decide_eq_true expired) (late p hp))

theorem IsSpent.cases (h : IsSpent past r) (late : ∀ p ∈ past, p ≤ now) :
    r.isUsed = true ∨ r.isExpired now = true := by
  obtain ⟨p, hp, spent⟩ := h
  rw [Tables.isClaimable, Bool.and_eq_false_iff, Bool.not_eq_false', Bool.not_eq_false'] at spent
  rcases spent with used | expired
  · exact .inl used
  · exact .inr (decide_eq_true
      (Timestamp.lt_of_lt_of_le (of_decide_eq_true expired) (late p hp)))

theorem IsSpent.isClaimable (h : IsSpent past r) (late : ∀ p ∈ past, p ≤ now) :
    Tables.isClaimable r now = false := by
  rcases h.cases late with used | expired
  · simp [Tables.isClaimable, used]
  · simp [Tables.isClaimable, expired]

theorem IsSpent.stamp (h : IsSpent past r) (id : Uuid) (at_ : Timestamp) :
    IsSpent past (if r.id = id then { r with usedAt := some at_ } else r) := by
  split
  · obtain ⟨p, hp, -⟩ := h
    exact ⟨p, hp, rfl⟩
  · exact h

end

section
variable {past : List Timestamp} {t t' : Tables}

theorem Veiled.refl (t : Tables) : Veiled past t t := ⟨rfl, .refl _, .refl _⟩

theorem Veiled.mono (veiled : Veiled past t t') {past' : List Timestamp} (sub : past ⊆ past') :
    Veiled past' t t' where
  users := veiled.users
  sessions := veiled.sessions.mono fun _ ⟨p, hp, expired⟩ => ⟨p, sub hp, expired⟩
  resets := veiled.resets.mono fun _ ⟨p, hp, spent⟩ => ⟨p, sub hp, spent⟩

theorem Veiled.user? (veiled : Veiled past t t') (id : Uuid) : t'.user? id = t.user? id := by
  rw [Tables.user?, veiled.users, Tables.user?]

theorem Veiled.userOf? (veiled : Veiled past t t') (email : String) :
    t'.userOf? email = t.userOf? email := by
  rw [Tables.userOf?, veiled.users, Tables.userOf?]

theorem Veiled.unmet {c : Token.Config} {ids : List Uuid} (veiled : Veiled past t t')
    (unmet : Unmet c ids t) : Unmet c ids t' where
  sessions x hx := unmet.sessions x (veiled.sessions.sublist.subset hx)
  resets r hr := unmet.resets r (veiled.resets.sublist.subset hr)
  sessionTokens _ ht := unmet.sessionTokens _ ((veiled.sessions.sublist.map _).subset ht)
  resetTokens _ ht := unmet.resetTokens _ ((veiled.resets.sublist.map _).subset ht)

theorem Veiled.withUser (veiled : Veiled past t t') (u : User) :
    Veiled past (withUser t u) (withUser t' u) where
  users := congrArg (· ++ [u]) veiled.users
  sessions := veiled.sessions
  resets := veiled.resets

theorem Veiled.withSession (veiled : Veiled past t t') (x : Session) :
    Veiled past (withSession t x) (withSession t' x) where
  users := veiled.users
  sessions := veiled.sessions.concat x
  resets := veiled.resets

theorem Veiled.withReset (veiled : Veiled past t t') (r : Reset) :
    Veiled past (withReset t r) (withReset t' r) where
  users := veiled.users
  sessions := veiled.sessions
  resets := veiled.resets.concat r

theorem Veiled.withoutSession (veiled : Veiled past t t') (id : Uuid) :
    Veiled past (withoutSession t id) (withoutSession t' id) where
  users := veiled.users
  sessions := veiled.sessions.filter _
  resets := veiled.resets

theorem Veiled.withoutSessionsOf (veiled : Veiled past t t') (userId : Uuid) :
    Veiled past (withoutSessionsOf t userId) (withoutSessionsOf t' userId) where
  users := veiled.users
  sessions := veiled.sessions.filter _
  resets := veiled.resets

theorem Veiled.withDigest (veiled : Veiled past t t') (r : Reset) (u : User) (hash : String)
    (at_ : Timestamp) : Veiled past (withDigest t r u hash at_) (withDigest t' r u hash at_) where
  users := congrArg (List.map _) veiled.users
  sessions := veiled.sessions
  resets := veiled.resets.map fun _ spent => spent.stamp r.id at_

theorem Veiled.swept (veiled : Veiled past t t') (now : Timestamp) :
    Veiled (past ++ [now]) t (swept t' now) := by
  have veiled' : Veiled (past ++ [now]) t t' := veiled.mono (List.subset_append_left _ _)
  have last : now ∈ past ++ [now] := List.mem_append_right _ List.mem_cons_self
  refine ⟨veiled'.users, veiled'.sessions.sweep ?_, veiled'.resets.sweep ?_⟩
  · intro x expired
    exact ⟨now, last, by simpa using expired⟩
  · intro r spent
    exact ⟨now, last, spent⟩

/-- Behind a token is the same session, or one that is past its time, and then the second tables
do not have it. -/
theorem Veiled.sessionOf?_cases (veiled : Veiled past t t') (keys : Unambiguous t)
    (token : String) :
    t'.sessionOf? token = t.sessionOf? token ∨
    ∃ x, t.sessionOf? token = some x ∧ IsPast past x ∧ t'.sessionOf? token = none ∧
      Service.withoutSession t' x.id = t' := by
  rcases veiled.sessions.find?_cases keys.sessionTokens token with same | ⟨x, found, old, gone⟩
  · exact .inl same
  · refine .inr ⟨x, found, old, gone, ?_⟩
    obtain ⟨hx, own⟩ := mem_of_sessionOf? found
    have kept : t'.sessions.filter (·.id ≠ x.id) = t'.sessions := by
      refine List.filter_eq_self.2 fun y hy => decide_eq_true fun same => ?_
      have eq := List.inj_on_of_nodup_map keys.sessions (veiled.sessions.sublist.subset hy) hx same
      exact List.find?_eq_none.1 gone y hy (decide_eq_true (eq ▸ own))
    rw [Service.withoutSession, kept]

theorem Veiled.resetOf?_cases (veiled : Veiled past t t') (keys : Unambiguous t)
    (token : String) :
    t'.resetOf? token = t.resetOf? token ∨
    ∃ r, t.resetOf? token = some r ∧ IsSpent past r ∧ t'.resetOf? token = none :=
  veiled.resets.find?_cases keys.tokens token

/-- A reset that both tables have is used in both, or in neither. -/
theorem Veiled.consumeReset_cases (veiled : Veiled past t t') (keys : Unambiguous t)
    {token : String} {r : Reset} (behind : t.resetOf? token = some r)
    (behind' : t'.resetOf? token = some r) (u : User) (hash : String) (at_ : Timestamp) :
    (Tables.consumeReset r.id (rehashed u hash at_) at_ t
        = (.ok (), Service.withDigest t r u hash at_) ∧
      Tables.consumeReset r.id (rehashed u hash at_) at_ t'
        = (.ok (), Service.withDigest t' r u hash at_)) ∨
    (Tables.consumeReset r.id (rehashed u hash at_) at_ t = (.error .notFound, t) ∧
      Tables.consumeReset r.id (rehashed u hash at_) at_ t' = (.error .notFound, t')) := by
  have found : t.reset? r.id = some r := find?_key keys.resets (mem_of_resetOf? behind).1
  have found' : t'.reset? r.id = some r :=
    find?_key (keys.resets.sublist (veiled.resets.sublist.map _)) (mem_of_resetOf? behind').1
  simp only [Tables.consumeReset, found, found', veiled.user?]
  split
  · exact .inl ⟨rfl, rfl⟩
  · exact .inr ⟨rfl, rfl⟩

end

/-- Two tables after the same event, and the answers to it. -/
structure Matches (past : List Timestamp) (e : Event) (done done' : Answer × Tables) : Prop where
  alike : Alike e done.1 done'.1
  veiled : Veiled past done.2 done'.2

section
variable {tokens : Token.Config} {hashing : Password.Hasher} {past : List Timestamp}
  {t t' : Tables} {draws : Draws}

/-- An event is served alike by two tables. -/
abbrev ServesAlike (tokens : Token.Config) (hashing : Password.Hasher) (past : List Timestamp)
    (t t' : Tables) (e : Event) : Prop :=
  Matches past e (e.serve (inMemory tokens hashing) t) (e.serve (inMemory tokens hashing) t')

theorem createSession_of_unmet {x : Session} {ids : List Uuid} (unmet : Unmet tokens ids t)
    (drawn : x.id ∈ ids) : Tables.createSession x t = (.ok (), withSession t x) :=
  createSession_of_new (unmet.session? drawn)

theorem register_alike (veiled : Veiled past t t') (email password : String)
    (role : Option Account.Role) (now : Timestamp) :
    ServesAlike tokens hashing past t t' (.register email password role now draws) := by
  simp only [ServesAlike, Event.serve, register, bind_apply, run_inMemory, Tables.run,
    veiled.userOf?]
  cases known : t.userOf? email with
  | some u => exact ⟨.same, veiled⟩
  | none =>
      simp only [Tables.orNotFound]
      cases Password.hash (inMemory tokens hashing).hashing.settings draws.salt password with
      | error e => exact ⟨.same, veiled⟩
      | ok hash =>
          simp only [bind_apply, run_inMemory, Tables.run, Tables.createUser, veiled.user?,
            veiled.userOf?]
          split
          · exact ⟨.same, veiled⟩
          · exact ⟨.same, veiled.withUser _⟩

theorem login_alike (veiled : Veiled past t t') (unmet : Unmet tokens [draws.record] t)
    (email password : String) (client : Account.Client) (now : Timestamp) :
    ServesAlike tokens hashing past t t' (.login email password client now draws) := by
  simp only [ServesAlike, Event.serve, login_eq, bind_apply, run_inMemory, Tables.run,
    veiled.userOf?]
  cases known : t.userOf? email with
  | none => exact ⟨.same, veiled⟩
  | some u =>
      simp only [Tables.orNotFound]
      cases Password.verify password u.passwordHash with
      | false => exact ⟨.same, veiled⟩
      | true =>
          simp only [Bool.not_true, Bool.false_eq_true, if_false, bind_apply, run_inMemory,
            Tables.run]
          rw [createSession_of_unmet unmet List.mem_cons_self,
            createSession_of_unmet (veiled.unmet unmet) List.mem_cons_self]
          exact ⟨.same, veiled.withSession _⟩

theorem rotateSession_of_unmet {token : String} {x y : Session} {ids : List Uuid}
    (behind : t.sessionOf? token = some x) (unmet : Unmet tokens ids t) (drawn : y.id ∈ ids) :
    Tables.rotateSession x.id y t = (.ok (), withSession (withoutSession t x.id) y) := by
  rcases rotateSession_cases behind y with ⟨-, rotated⟩ | conflict
  · exact rotated
  · exact absurd (congrArg Prod.fst conflict)
      (rotateSession_ne_conflict (x := y) (unmet.session? drawn) x.id)

theorem refresh_alike (veiled : Veiled past t t') (keys : Unambiguous t)
    (unmet : Unmet tokens [draws.record] t) {now : Timestamp} (late : ∀ p ∈ past, p ≤ now)
    (token : String) (client : Account.Client) :
    ServesAlike tokens hashing past t t' (.refresh token client now draws) := by
  simp only [ServesAlike, Event.serve, refresh, tokens_inMemory]
  cases tokens.validate .refresh now.seconds token with
  | error e => exact ⟨.same, veiled⟩
  | ok claims =>
      simp only [user, bind_apply, run_inMemory, Tables.run, veiled.user?]
      cases t.user? claims.userId with
      | none => exact ⟨.same, veiled⟩
      | some u =>
          simp only [Tables.orNotFound, pure_apply, bind_apply, run_inMemory, Tables.run]
          rcases veiled.sessionOf?_cases keys token with same | ⟨x, behind, old, gone, without⟩
          · rw [same]
            cases behind : t.sessionOf? token with
            | none => exact ⟨.same, veiled⟩
            | some x =>
                dsimp only
                split
                · exact ⟨.same, veiled⟩
                split
                · simp only [bind_apply, run_inMemory, Tables.run,
                    deleteSession_of_sessionOf? behind,
                    deleteSession_of_sessionOf? (same.trans behind)]
                  exact ⟨.same, veiled.withoutSession x.id⟩
                · simp only [renew, bind_apply, run_inMemory, Tables.run]
                  rw [rotateSession_of_unmet behind unmet List.mem_cons_self,
                    rotateSession_of_unmet (same.trans behind) (veiled.unmet unmet)
                      List.mem_cons_self]
                  exact ⟨.same, (veiled.withoutSession x.id).withSession _⟩
          -- what was swept is past its time, so it is not renewed where it still stands either
          · rw [behind, gone]
            dsimp only
            split
            · exact ⟨.same, veiled⟩
            rw [if_pos (old.isExpired late)]
            simp only [bind_apply, run_inMemory, Tables.run, deleteSession_of_sessionOf? behind]
            exact ⟨.lapsed, without ▸ veiled.withoutSession x.id⟩

theorem logout_alike (veiled : Veiled past t t') (keys : Unambiguous t) (token : String) :
    ServesAlike tokens hashing past t t' (.logout token) := by
  simp only [ServesAlike, Event.serve, logout, bind_apply, run_inMemory, Tables.run]
  rcases veiled.sessionOf?_cases keys token with same | ⟨x, behind, old, gone, without⟩
  · rw [same]
    cases behind : t.sessionOf? token with
    | none => exact ⟨.same, veiled⟩
    | some x =>
        simp only [Tables.orNotFound, bind_apply, run_inMemory, Tables.run,
          deleteSession_of_sessionOf? behind, deleteSession_of_sessionOf? (same.trans behind)]
        exact ⟨.same, veiled.withoutSession x.id⟩
  · rw [behind, gone]
    simp only [Tables.orNotFound, bind_apply, run_inMemory, Tables.run,
      deleteSession_of_sessionOf? behind]
    exact ⟨.same, without ▸ veiled.withoutSession x.id⟩

theorem logoutAll_alike (veiled : Veiled past t t') (userId : Uuid) :
    ServesAlike tokens hashing past t t' (.logoutAll userId) :=
  ⟨.counted, veiled.withoutSessionsOf userId⟩

theorem createReset_of_unmet {r : Reset} {ids : List Uuid} (unmet : Unmet tokens ids t)
    (drawn : r.id ∈ ids) (issued : Issued tokens ids r.token) :
    Tables.createReset r t = (.ok (), withReset t r) :=
  createReset_of_new
    (List.find?_eq_none.2 fun q hq same => unmet.resets q hq (of_decide_eq_true same ▸ drawn))
    (resetOf?_eq_none_iff.2 fun ht => unmet.resetTokens r.token ht issued)

theorem requestReset_alike (veiled : Veiled past t t')
    (unmet : Unmet tokens [draws.firstToken, draws.record] t) (email : String)
    (now : Timestamp) :
    ServesAlike tokens hashing past t t' (.requestReset email now draws) := by
  simp only [ServesAlike, Event.serve, requestReset, bind_apply, run_inMemory, Tables.run,
    veiled.userOf?]
  cases t.userOf? email with
  | none => exact ⟨.same, veiled⟩
  | some u =>
      let r := (inMemory tokens hashing).resetFor u
        (resetToken (inMemory tokens hashing) u now draws) now draws
      have issued : Issued tokens [draws.firstToken, draws.record] r.token :=
        issued_resetToken (inMemory tokens hashing) u now List.mem_cons_self
      have drawn : r.id ∈ [draws.firstToken, draws.record] := by simp [r, resetFor]
      simp only [Tables.orNotFound, bind_apply, run_inMemory, Tables.run]
      rw [createReset_of_unmet unmet drawn issued,
        createReset_of_unmet (veiled.unmet unmet) drawn issued]
      exact ⟨.same, veiled.withReset r⟩

theorem resetPassword_alike (veiled : Veiled past t t') (keys : Unambiguous t)
    {now : Timestamp} (late : ∀ p ∈ past, p ≤ now) (token password : String)
    (later : Timestamp) (salt : Bytes) :
    ServesAlike tokens hashing past t t' (.resetPassword token password now later salt) := by
  simp only [ServesAlike, Event.serve, resetPassword, tokens_inMemory]
  cases tokens.validate .reset now.seconds token with
  | error e => exact ⟨.same, veiled⟩
  | ok claims =>
      simp only [user, bind_apply, run_inMemory, Tables.run, veiled.user?]
      cases known : t.user? claims.userId with
      | none => exact ⟨.same, veiled⟩
      | some u =>
          simp only [Tables.orNotFound, pure_apply, bind_apply, run_inMemory, Tables.run]
          rcases veiled.resetOf?_cases keys token with same | ⟨r, behind, old, gone⟩
          · rw [same]
            cases behind : t.resetOf? token with
            | none => exact ⟨.same, veiled⟩
            | some r =>
                dsimp only
                split
                · exact ⟨.same, veiled⟩
                split
                · exact ⟨.same, veiled⟩
                split
                · exact ⟨.same, veiled⟩
                cases Password.hash (inMemory tokens hashing).hashing.settings salt password with
                | error e => exact ⟨.same, veiled⟩
                | ok hash =>
                    simp only [commitReset, bind_apply, run_inMemory, Tables.run]
                    rcases veiled.consumeReset_cases keys behind (same.trans behind) u hash later
                      with ⟨consumed, consumed'⟩ | ⟨refused, refused'⟩
                    · rw [consumed, consumed']
                      exact ⟨.same, (veiled.withDigest r u hash later).withoutSessionsOf u.id⟩
                    · rw [refused, refused']
                      exact ⟨.same, veiled⟩
          -- what was swept is spent, so it is not used where it still stands either
          · rw [behind, gone]
            dsimp only
            split
            · exact ⟨.same, veiled⟩
            split
            · exact ⟨.expired, veiled⟩
            next lasting =>
              rw [if_pos ((old.cases late).resolve_right lasting)]
              exact ⟨.used, veiled⟩

theorem serve_alike {e : Event} (asked : e.isSweep = false) (veiled : Veiled past t t')
    (keys : Unambiguous t) (unmet : Unmet tokens e.drawn t)
    (late : ∀ p ∈ past, ∀ x ∈ e.times, p ≤ x) : ServesAlike tokens hashing past t t' e := by
  cases e with
  | register email password role now draws => exact register_alike veiled email password role now
  | login email password client now draws =>
      exact login_alike veiled (unmet.subset (by simp [Event.drawn])) email password client now
  | refresh token client now draws =>
      exact refresh_alike veiled keys (unmet.subset (by simp [Event.drawn]))
        (fun p hp => late p hp now List.mem_cons_self) token client
  | logout token => exact logout_alike veiled keys token
  | logoutAll userId => exact logoutAll_alike veiled userId
  | requestReset email now draws => exact requestReset_alike veiled unmet email now
  | resetPassword token password now later salt =>
      exact resetPassword_alike veiled keys (fun p hp => late p hp now List.mem_cons_self) token
        password later salt
  | sweep now => cases asked

end

/-- The events but for the sweeps. -/
def unswept (es : List Event) : List Event := es.filter (!·.isSweep)

theorem unswept_concat (es : List Event) (e : Event) :
    unswept (es ++ [e]) = if e.isSweep then unswept es else unswept es ++ [e] := by
  rw [unswept, List.filter_append, List.filter_singleton]
  cases e.isSweep with
  | true => exact List.append_nil _
  | false => rfl

theorem drawn_of_isSweep {e : Event} (sweeps : e.isSweep = true) : e.drawn = [] := by
  cases e with
  | sweep now => rfl
  | register | login | refresh | logout | logoutAll | requestReset | resetPassword => cases sweeps

theorem drawnBy_unswept (es : List Event) : drawnBy (unswept es) = drawnBy es := by
  induction es using List.reverseRecOn with
  | nil => rfl
  | append_singleton es e ih =>
      rw [unswept_concat, drawnBy_concat]
      split
      next sweeps => rw [ih, drawn_of_isSweep sweeps, List.append_nil]
      next => rw [drawnBy_concat, ih]

theorem Ordered.last {es : List Event} {e : Event} (h : Ordered (es ++ [e])) :
    ∀ p ∈ es.flatMap Event.times, ∀ x ∈ e.times, p ≤ x := by
  rw [Ordered, List.flatMap_append, List.flatMap_singleton] at h
  exact (List.pairwise_append.1 h).2.2

section
variable (tokens : Token.Config) (hashing : Password.Hasher) {t : Tables} {es : List Event}

/-- The events so far, with and without sweeps, and one more: it is served alike. -/
theorem serve_alike_reached {e : Event} (ordered : Ordered (es ++ [e]))
    (distinct : Distinct (es ++ [e])) (keys : Unambiguous t)
    (unmet : Unmet tokens (drawnBy (es ++ [e])) t) (asked : e.isSweep = false)
    (veiled : Veiled (es.flatMap Event.times) (reached (inMemory tokens hashing) t (unswept es))
      (reached (inMemory tokens hashing) t es)) :
    ServesAlike tokens hashing (es.flatMap Event.times)
      (reached (inMemory tokens hashing) t (unswept es))
      (reached (inMemory tokens hashing) t es) e := by
  have drawn : drawnBy (unswept es ++ [e]) = drawnBy (es ++ [e]) := by
    rw [drawnBy_concat, drawnBy_unswept, drawnBy_concat]
  have distinct' : Distinct (unswept es ++ [e]) := by
    rw [Distinct, drawn]
    exact distinct
  rw [← drawn] at unmet
  have next := unmet_next tokens hashing unmet distinct'
  have earlier := unmet.subset
    (drawnBy_concat (unswept es) e ▸ List.subset_append_left (drawnBy (unswept es)) e.drawn)
  exact serve_alike asked veiled (unambiguous_reached tokens hashing keys earlier distinct'.init)
    next ordered.last

theorem veiled_reached (ordered : Ordered es) (distinct : Distinct es) (keys : Unambiguous t)
    (unmet : Unmet tokens (drawnBy es) t) :
    Veiled (es.flatMap Event.times) (reached (inMemory tokens hashing) t (unswept es))
      (reached (inMemory tokens hashing) t es) := by
  induction es using List.reverseRecOn with
  | nil => exact .refl t
  | append_singleton es e ih =>
      have earlier := unmet.subset
        (drawnBy_concat es e ▸ List.subset_append_left (drawnBy es) e.drawn)
      have veiled := ih ordered.init distinct.init earlier
      rw [unswept_concat, List.flatMap_append, List.flatMap_singleton, reached_concat]
      cases asked : e.isSweep with
      | true =>
          cases e with
          | sweep now => exact veiled.swept now
          | register | login | refresh | logout | logoutAll | requestReset | resetPassword =>
              cases asked
      | false =>
          have served := serve_alike_reached tokens hashing ordered distinct keys unmet asked veiled
          rw [if_neg Bool.false_ne_true, reached_concat]
          exact served.veiled.mono (List.subset_append_left _ _)

/-- Sweeps go unnoticed. A run with sweeps, from any tables whose rows are told apart, and the same
run without: an event fails in both or in none, and its answers are alike; the users are the same
all along; and so are the sessions that last and the resets that may be used, whenever the clock
has come so far. -/
theorem sweep_transparency (ordered : Ordered es) (distinct : Distinct es)
    (keys : Unambiguous t) (unmet : Unmet tokens (drawnBy es) t) :
    let s := inMemory tokens hashing
    (∀ before e after, es = before ++ e :: after → e.isSweep = false →
      let a := (e.serve s (reached s t (unswept before))).1
      let a' := (e.serve s (reached s t before)).1
      a'.isOk = a.isOk ∧ Alike e a a') ∧
    (∀ before, before <+: es →
      (reached s t before).users = (reached s t (unswept before)).users) ∧
    ∀ now, (∀ x ∈ es.flatMap Event.times, x ≤ now) →
      let left := reached s t (unswept es)
      (reached s t es).sessions.filter (!·.isExpired now)
        = left.sessions.filter (!·.isExpired now) ∧
      (reached s t es).resets.filter (Tables.isClaimable · now)
        = left.resets.filter (Tables.isClaimable · now) := by
  intro s
  have start {fs gs : List Event} (split : es = fs ++ gs) :
      Ordered fs ∧ Distinct fs ∧ Unmet tokens (drawnBy fs) t := by
    subst split
    rw [drawnBy_append] at unmet
    exact ⟨ordered.init, distinct.init, unmet.subset (List.subset_append_left _ _)⟩
  refine ⟨?_, ?_, ?_⟩
  · intro before e after split asked a a'
    obtain ⟨ordered', distinct', unmet'⟩ := start ((List.append_cons ..).symm ▸ split)
    obtain ⟨ordered'', distinct'', unmet''⟩ := start split
    have veiled := veiled_reached tokens hashing ordered'' distinct'' keys unmet''
    have alike : Alike e a a' :=
      (serve_alike_reached tokens hashing ordered' distinct' keys unmet' asked veiled).alike
    exact ⟨alike.isOk_eq, alike⟩
  · rintro before ⟨after, split⟩
    obtain ⟨ordered', distinct', unmet'⟩ := start split.symm
    exact (veiled_reached tokens hashing ordered' distinct' keys unmet').users
  · intro now late left
    have veiled := veiled_reached tokens hashing ordered distinct keys unmet
    refine ⟨veiled.sessions.filter_eq ?_, veiled.resets.filter_eq ?_⟩
    · intro x past
      rw [past.isExpired late, Bool.not_true]
    · intro r spent
      exact spent.isClaimable late

end

/-- A session is swept away before its user ends it. -/
theorem sweep_transparency_logout :
    let s := inMemory sampleTokens {}
    let u : User := ⟨sampleUser, "a@b.cd", "", .user, ⟨0, 0⟩, ⟨0, 0⟩⟩
    let x : Session := ⟨⟨2⟩, sampleUser, "left", "", "", ⟨3610, 0⟩, ⟨10, 0⟩⟩
    let t : Tables := ⟨[u], [x], [sampleReset]⟩
    let before : List Event := [.sweep ⟨3611, 0⟩]
    let es := before ++ [.logout "left"]
    Ordered es ∧ Distinct es ∧ Unambiguous t ∧ Unmet sampleTokens (drawnBy es) t ∧
      reached s t before = ⟨[u], [], []⟩ ∧ reached s t (unswept before) = t ∧
      ((Event.logout "left").serve s (reached s t before)).1.isOk
        = ((Event.logout "left").serve s (reached s t (unswept before))).1.isOk := by
  intro s u x t before es
  have ordered : Ordered es := by decide
  have distinct : Distinct es := by decide
  have keys : Unambiguous t := ⟨⟨by simp [t], by simp [t], by simp [t]⟩, by simp [t, sessionTokens]⟩
  have unmet : Unmet sampleTokens (drawnBy es) t := by
    refine ⟨fun _ _ => List.not_mem_nil, fun _ _ => List.not_mem_nil, ?_, ?_⟩
    · rintro token - ⟨_, _, _, _, _, id, hid, -⟩
      cases hid
    · rintro token - ⟨_, _, _, _, _, id, hid, -⟩
      cases hid
  obtain ⟨answers, -, -⟩ := sweep_transparency sampleTokens {} ordered distinct keys unmet
  exact ⟨ordered, distinct, keys, unmet, rfl, rfl, (answers before _ [] rfl rfl).1⟩

end Gatehouse.Service
