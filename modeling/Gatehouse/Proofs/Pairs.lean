import Gatehouse.Proofs.Lifetimes
import Gatehouse.Proofs.PasswordVerifying
import Gatehouse.Proofs.Sweeping
import Gatehouse.Proofs.UserAgreement

/-!
The pairs that are handed out and what stands in the tables. Both tokens of a pair speak of the
user as the row does that is stored when they are issued, whatever an older token says, and behind
the refresh token stands one new session. A renewal puts it in the place of the old one.
-/

namespace Gatehouse.Service

open Account (User Session)
open Store (Tables)

/-- A token is accepted as one of a kind, and says of its user what the row says. -/
def SpeaksOf (c : Token.Config) (kind : Token.Kind) (now : Timestamp) (u : User)
    (token : String) : Prop :=
  ∃ claims, c.validate kind now.seconds token = .ok claims ∧
    claims.userId = u.id ∧ claims.email = u.email ∧ claims.role = u.role

/-- A pair is handed out to a user, and a session is added to those that are kept: it has a token
that no session had, and the user, the client and the end of this call. -/
structure HandsOut (c : Token.Config) (u : User) (client : Account.Client) (now : Timestamp)
    (pair : Pair) (kept : List Session) (t t' : Tables) : Prop where
  access : SpeaksOf c .access now u pair.accessToken
  refresh : SpeaksOf c .refresh now u pair.refreshToken
  new : ∀ x ∈ t.sessions, x.refreshToken ≠ pair.refreshToken
  rows : ∃ id, t.session? id = none ∧ t' = { t with sessions := kept ++ [{
    id := id
    userId := u.id
    refreshToken := pair.refreshToken
    userAgent := client.userAgent
    clientIp := client.ip
    expiresAt := endOf now c.refreshLifetime
    createdAt := now }] }

theorem speaksOf_issue (c : Token.Config) {kind : Token.Kind} (personal : kind ≠ .reset) (u : User)
    (id : Uuid) {now : Timestamp} (start : 0 ≤ now.seconds)
    (inTime : now.seconds ≤ Token.maxTime) :
    SpeaksOf c kind now u (c.issue kind u.id u.email u.role now.seconds id) := by
  have lasting : now.seconds
      ≤ (c.claims kind u.id u.email u.role now.seconds id).expires := by
    rw [c.expires_claims kind u.id u.email u.role id start]
    omega
  exact ⟨_, c.validate_issue kind u.id u.email u.role id start inTime (Int.le_refl _) lasting,
    rfl, rfl, if_neg personal⟩

section
variable {s : Service (StateM Tables)} {t t' : Tables} {client : Account.Client}
  {now : Timestamp} {draws : Draws} {pair : Pair}

/-- A session that is opened is behind the pair of its user. -/
theorem handsOut_opened (s : Service (StateM Tables)) (client : Account.Client)
    (start : 0 ≤ now.seconds) (inTime : now.seconds ≤ Token.maxTime)
    (unmet : Unmet s.tokens [draws.firstToken, draws.secondToken, draws.record] t) (u : User)
    (kept : List Session) :
    HandsOut s.tokens u client now (s.pairFor u now draws) kept t
      { t with sessions := kept ++ [opened s u client now draws] } where
  access := speaksOf_issue s.tokens (by decide) u draws.firstToken start inTime
  refresh := speaksOf_issue s.tokens (by decide) u draws.secondToken start inTime
  new x hx same := by
    have issued : Issued s.tokens [draws.firstToken, draws.secondToken, draws.record]
        (opened s u client now draws).refreshToken := issued_opened s u client now (by simp)
    -- an old session of this token would have one that is issued with what is drawn now
    exact unmet.sessionTokens _ (List.mem_map_of_mem hx) (same ▸ issued)
  rows := ⟨draws.record, unmet.session? (by simp), rfl⟩

theorem Step.login_ok {email password : String} {a : Answer}
    (step : Step s t (.login email password client now draws) a t')
    (ok : a = .pair (.ok pair)) :
    ∃ u, t.userOf? email = some u ∧ pair = s.pairFor u now draws ∧
      t' = withSession t (Service.opened s u client now draws) := by
  cases step with
  | refused failed =>
      rw [ok] at failed
      cases failed
  | opened known => exact ⟨_, known, (Except.ok.inj (Answer.pair.inj ok)).symm, rfl⟩

theorem Step.refresh_ok {token : String} {a : Answer}
    (step : Step s t (.refresh token client now draws) a t') (ok : a = .pair (.ok pair)) :
    ∃ claims u x, s.tokens.validate .refresh now.seconds token = .ok claims ∧
      t.user? claims.userId = some u ∧ t.sessionOf? token = some x ∧ x.userId = u.id ∧
      pair = s.pairFor u now draws ∧
      t' = withSession (withoutSession t x.id) (Service.opened s u client now draws) := by
  cases step with
  | refused failed =>
      rw [ok] at failed
      cases failed
  | late | lapsed => cases ok
  | renewed valid known behind own =>
      exact ⟨_, _, _, valid, known, behind, own, (Except.ok.inj (Answer.pair.inj ok)).symm, rfl⟩

end

section
variable (tokens : Token.Config) (hashing : Password.Hasher) {t t' : Tables}
  {client : Account.Client} {now : Timestamp} {draws : Draws} {pair : Pair}

/-- What is handed out is what stands in the tables, at every time from 1970 on that a token can
say, if what is drawn is met nowhere. A login speaks of the one user with the address and adds a
session. A renewal speaks of the one user whom the old token names, as the row is now, and puts a
session in the place of the one session of that token. -/
theorem pairs_match_tables (start : 0 ≤ now.seconds) (inTime : now.seconds ≤ Token.maxTime)
    (users : t.UsersKeyed) (sessions : (t.sessions.map (·.id)).Nodup)
    (unique : (sessionTokens t).Nodup)
    (unmet : Unmet tokens [draws.firstToken, draws.secondToken, draws.record] t) :
    let s := inMemory tokens hashing
    (∀ email password, s.login email password client now draws t = (.ok pair, t') →
      ∃ u ∈ t.users, (∀ v ∈ t.users, v.email = email ↔ v = u) ∧
        HandsOut tokens u client now pair t.sessions t t' ∧
        t'.sessions.length = t.sessions.length + 1) ∧
    (∀ token, s.refresh token client now draws t = (.ok pair, t') →
      ∃ claims, tokens.validate .refresh now.seconds token = .ok claims ∧
        ∃ u ∈ t.users, (∀ v ∈ t.users, v.id = claims.userId ↔ v = u) ∧
        ∃ x ∈ t.sessions, (∀ y ∈ t.sessions, y.refreshToken = token ↔ y = x) ∧
          x.userId = u.id ∧ HandsOut tokens u client now pair (t.sessions.filter (· ≠ x)) t t' ∧
          t'.sessions.length = t.sessions.length) := by
  intro s
  refine ⟨fun email password done => ?_, fun token done => ?_⟩
  · have step := login_step tokens hashing t email password client now draws
    rw [done] at step
    obtain ⟨u, known, rfl, rfl⟩ := step.login_ok rfl
    obtain ⟨hu, rfl⟩ := mem_of_userOf? known
    refine ⟨u, hu, fun v hv => ⟨fun same => ?_, fun same => same ▸ rfl⟩, ?_, ?_⟩
    · exact List.inj_on_of_nodup_map users.emails hv hu same
    · exact handsOut_opened s client start inTime unmet u t.sessions
    · exact List.length_append
  · have step := refresh_step tokens hashing t token client now draws
    rw [done] at step
    obtain ⟨claims, u, x, valid, known, behind, own, rfl, rfl⟩ := step.refresh_ok rfl
    obtain ⟨hu, named⟩ := mem_of_user? known
    obtain ⟨hx, rfl⟩ := mem_of_sessionOf? behind
    have kept : t.sessions.filter (·.id ≠ x.id) = t.sessions.filter (· ≠ x) :=
      filter_key sessions hx
    have fewer := length_filter_ne sessions.of_map hx
    refine ⟨claims, valid, u, hu, fun v hv => ⟨fun same => ?_, fun same => same ▸ named⟩, x, hx,
      fun y hy => ⟨fun same => ?_, fun same => same ▸ rfl⟩, own, ?_, ?_⟩
    · exact List.inj_on_of_nodup_map users.ids hv hu (same.trans named.symm)
    · exact List.inj_on_of_nodup_map unique hy hx same
    · rw [← kept]
      exact handsOut_opened s client start inTime unmet u _
    · rw [← fewer, ← kept]
      exact List.length_append

end

/-- A user has another address and another role since the token was issued that is renewed. -/
theorem pairs_match_tables_updated :
    let s := inMemory sampleTokens {}
    let client : Account.Client := ⟨"agent", "::1"⟩
    let now : Timestamp := ⟨20, 0⟩
    let draws : Draws := ⟨⟨5⟩, ⟨6⟩, ⟨7⟩, []⟩
    let old := sampleTokens.issue .refresh ⟨1⟩ "a@b.cd" .user 10 ⟨3⟩
    ∃ hash, Password.hash {} sampleSalt "first" = .ok hash ∧
      let u : User := ⟨⟨1⟩, "a@b.cd", hash, .user, ⟨0, 0⟩, ⟨0, 0⟩⟩
      let x : Session := ⟨⟨4⟩, ⟨1⟩, old, "", "", ⟨100, 0⟩, ⟨10, 0⟩⟩
      let t := (Tables.updateUser { u with email := "c@d.ef", role := .admin } ⟨15, 0⟩
        ⟨[u], [x], []⟩).2
      (0 ≤ now.seconds ∧ now.seconds ≤ Token.maxTime ∧ t.UsersKeyed ∧
        (t.sessions.map (·.id)).Nodup ∧ (sessionTokens t).Nodup ∧
        Unmet sampleTokens [⟨5⟩, ⟨6⟩, ⟨7⟩] t) ∧
      (∃ pair t', s.login "c@d.ef" "first" client now draws t = (.ok pair, t') ∧
        t'.sessions.length = 2) ∧
      ∃ pair t' claims, s.refresh old client now draws t = (.ok pair, t') ∧
        t'.sessions.length = 1 ∧
        sampleTokens.validate .access now.seconds pair.accessToken = .ok claims ∧
        claims.email = "c@d.ef" ∧ claims.role = .admin := by
  intro s client now draws old
  obtain ⟨hash, hashed⟩ : ∃ hash, Password.hash {} sampleSalt "first" = .ok hash := ⟨_, rfl⟩
  refine ⟨hash, hashed, ?_⟩
  intro u x t
  let v : User := ⟨⟨1⟩, "c@d.ef", hash, .admin, ⟨0, 0⟩, ⟨15, 0⟩⟩
  have users : t.UsersKeyed := ⟨List.nodup_singleton _, List.nodup_singleton _⟩
  have sessions : (t.sessions.map (·.id)).Nodup := List.nodup_singleton _
  have unique : (sessionTokens t).Nodup := List.nodup_singleton _
  have unmet : Unmet sampleTokens [⟨5⟩, ⟨6⟩, ⟨7⟩] t := by
    refine ⟨fun y hy => ?_, nofun, fun token ht issued => ?_, nofun⟩
    · rw [List.mem_singleton.1 hy]
      decide
    · have first : Issued sampleTokens [⟨3⟩] old :=
        ⟨.refresh, ⟨1⟩, "a@b.cd", .user, 10, ⟨3⟩, List.mem_cons_self, rfl⟩
      exact first.disjoint (List.mem_singleton.1 ht ▸ issued)
        (List.singleton_disjoint.2 (by decide))
  have new : t.session? draws.record = none := unmet.session? (by decide)
  have known : t.userOf? "c@d.ef" = some v := rfl
  have named : t.user? ⟨1⟩ = some v := rfl
  have right : Password.verify "first" v.passwordHash = true :=
    Password.verify_hash hashed (by decide) (by decide)
  have valid : sampleTokens.validate .refresh now.seconds old
      = .ok (sampleTokens.claims .refresh ⟨1⟩ "a@b.cd" .user 10 ⟨3⟩) :=
    validate_of_lasting (t := ⟨10, 0⟩) ⟨by decide, by decide⟩ (by decide) (by decide)
  have hx : x ∈ t.sessions := List.mem_cons_self
  have behind : t.sessionOf? x.refreshToken = some x := find?_key unique hx
  have entered : s.login "c@d.ef" "first" client now draws t
      = (.ok (s.pairFor v now draws), _) := login_of_verified known right new
  have renewed : s.refresh old client now draws t
      = (.ok (s.pairFor v now draws), _) := refresh_of_lasting valid named behind rfl rfl new
  have start : 0 ≤ now.seconds := by decide
  have inTime : now.seconds ≤ Token.maxTime := by decide
  refine ⟨⟨start, inTime, users, sessions, unique, unmet⟩, ?_, ?_⟩
  · obtain ⟨_, -, -, -, count⟩ := (pairs_match_tables sampleTokens {} start inTime users sessions
      unique unmet).1 "c@d.ef" "first" entered
    exact ⟨_, _, entered, count⟩
  · obtain ⟨_, -, w, hw, -, _, -, -, -, handed, count⟩ := (pairs_match_tables sampleTokens {} start
      inTime users sessions unique unmet).2 old renewed
    obtain ⟨claims, accepted, -, address, role⟩ := handed.access
    obtain rfl : w = v := List.mem_singleton.1 hw
    exact ⟨_, _, claims, renewed, count, accepted, address, role⟩

end Gatehouse.Service
