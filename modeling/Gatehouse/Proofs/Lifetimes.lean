import Gatehouse.Proofs.Isolation
import Gatehouse.Proofs.PasswordReading
import Gatehouse.Proofs.Rotation

/-!
How long refresh and reset tokens are good for. A token says the second in which it ends, and its
row the moment; the row lives a hundred years at most. The row ends first, so a token is taken up
to the moment that its row says and no longer, whether rows past their time are swept away or not.
-/

namespace Gatehouse.Service

open Account (User Session Reset)
open Store (Tables)

/-- A hundred years of 365 days, in seconds. -/
def century : Nat := 100 * 365 * 24 * 60 * 60

/-- The end of a lifetime that begins at a time, or of a hundred years if it is longer. -/
def endOf (t : Timestamp) (lifetime : Nat) : Timestamp :=
  ⟨t.seconds + min (lifetime : Int) century, t.nanos⟩

theorem expiry_eq (t : Timestamp) (lifetime : Nat) : expiry t lifetime = endOf t lifetime := rfl

/-- A time from which a hundred years end within the times that a token can say. -/
structure HasRoom (t : Timestamp) : Prop where
  start : 0 ≤ t.seconds
  room : t.seconds + century ≤ Token.maxTime

/-- Nothing overflows: a row ends before any time that a hundred years keep. -/
theorem expiry_le {t last : Timestamp} (lifetime : Nat)
    (room : ⟨t.seconds + century, t.nanos⟩ ≤ last) : expiry t lifetime ≤ last := by
  refine Timestamp.le_trans ?_ room
  rw [Timestamp.le_def, Timestamp.lt_def, expiry_eq, endOf]
  dsimp only
  omega

section
variable {tokens : Token.Config} {kind : Token.Kind} {userId : Uuid} {email : String}
  {role : Account.Role} {id : Uuid} {t now : Timestamp}

/-- The token ends with its row or later. -/
theorem seconds_endOf_le (placed : HasRoom t) : (endOf t (tokens.lifetime kind)).seconds
    ≤ (tokens.claims kind userId email role t.seconds id).expires := by
  have room := placed.room
  have ends := tokens.expires_claims kind userId email role id placed.start
  rw [ends, endOf]
  dsimp only
  omega

/-- From the time of its issue on, a token is accepted or has expired. -/
theorem validate_of_issued (placed : HasRoom t) (since : t ≤ now) :
    let c := tokens.claims kind userId email role t.seconds id
    tokens.validate kind now.seconds (tokens.issue kind userId email role t.seconds id)
      = if c.expires < now.seconds then .error .expired else .ok c := by
  intro c
  have room := placed.room
  have start := placed.start
  have inTime : t.seconds ≤ Token.maxTime := by omega
  have lasting : t.seconds ≤ c.expires := by
    rw [tokens.expires_claims kind userId email role id start]
    omega
  have valid := tokens.validate_issue kind userId email role id start inTime (Int.le_refl _) lasting
  exact Token.Config.validate_of_le valid (seconds_le since)

theorem validate_of_lasting (placed : HasRoom t) (since : t ≤ now)
    (lasting : now ≤ endOf t (tokens.lifetime kind)) :
    tokens.validate kind now.seconds (tokens.issue kind userId email role t.seconds id)
      = .ok (tokens.claims kind userId email role t.seconds id) := by
  have late : ¬ (tokens.claims kind userId email role t.seconds id).expires < now.seconds :=
    Int.not_lt.2 (Int.le_trans (seconds_le lasting) (seconds_endOf_le placed))
  exact (validate_of_issued placed since).trans (if_neg late)

theorem validate_cases (placed : HasRoom t) (since : t ≤ now) :
    let token := tokens.issue kind userId email role t.seconds id
    tokens.validate kind now.seconds token = .error .expired ∨
      ∃ c, tokens.validate kind now.seconds token = .ok c ∧ c.userId = userId := by
  intro token
  rw [show tokens.validate kind now.seconds token = _ from validate_of_issued placed since]
  split
  · exact .inl rfl
  · exact .inr ⟨_, rfl, rfl⟩

end

/-- What a row says of a token: whose it is, and when it ends. -/
structure Term where
  token : String
  userId : Uuid
  ends : Timestamp

def sessionTerms (t : Tables) : List Term :=
  t.sessions.map fun x => ⟨x.refreshToken, x.userId, x.expiresAt⟩

def resetTerms (t : Tables) : List Term :=
  t.resets.map fun r => ⟨r.token, r.userId, r.expiresAt⟩

/-- The token was issued for a user that is there, and if it has a row, the row says so and when
the token ends. -/
structure Tenure (c : Token.Config) (ids : List Uuid) (t : Tables) (terms : List Term) (p : Term) :
    Prop where
  issued : Issued c ids p.token
  owner : (t.user? p.userId).isSome = true
  rows : ∀ q ∈ terms, q.token = p.token → q = p

section
variable {s : Service (StateM Tables)} {t t' : Tables} {e : Event} {a : Answer} {ids : List Uuid}
  {p : Term}

/-- A step changes no term, and adds those of tokens that it issues. -/
theorem Step.sessionTerms (step : Step s t e a t') : ∀ q ∈ Service.sessionTerms t',
    q ∈ Service.sessionTerms t ∨ Issued s.tokens e.drawn q.token := by
  intro q hq
  obtain ⟨x, hx, rfl⟩ := List.mem_map.1 hq
  have old {y : Session} (hy : y ∈ t.sessions) : Term.mk y.refreshToken y.userId y.expiresAt
      ∈ Service.sessionTerms t := List.mem_map_of_mem hy
  cases step with
  | refused | registered | late | absent | requested => exact .inl (old hx)
  | lapsed | closed | allClosed | changed | swept => exact .inl (old (List.mem_of_mem_filter hx))
  | @opened email password client now draws u =>
      rcases List.mem_append.1 hx with hx | hx
      · exact .inl (old hx)
      · rw [List.mem_singleton.1 hx]
        exact .inr (issued_opened s u client now (by simp [Event.drawn]))
  | @renewed token client now draws claims u =>
      rcases List.mem_append.1 hx with hx | hx
      · exact .inl (old (List.mem_of_mem_filter hx))
      · rw [List.mem_singleton.1 hx]
        exact .inr (issued_opened s u client now (by simp [Event.drawn]))

theorem Step.resetTerms (step : Step s t e a t') : ∀ q ∈ Service.resetTerms t',
    q ∈ Service.resetTerms t ∨ Issued s.tokens e.drawn q.token := by
  intro q hq
  cases step with
  | refused | registered | late | absent | lapsed | closed | allClosed | opened | renewed =>
      exact .inl hq
  | @changed token password now later salt claims u r q hash =>
      have same : Service.resetTerms (withDigest t r u hash later) = Service.resetTerms t :=
        map_resets_withDigest (fun r => Term.mk r.token r.userId r.expiresAt)
          (fun _ _ => rfl) ..
      exact .inl (same ▸ hq)
  | swept =>
      obtain ⟨r, hr, rfl⟩ := List.mem_map.1 hq
      exact .inl (List.mem_map_of_mem (List.mem_of_mem_filter hr))
  | @requested email now draws u =>
      obtain ⟨r, hr, rfl⟩ := List.mem_map.1 hq
      rcases List.mem_append.1 hr with hr | hr
      · exact .inl (List.mem_map_of_mem hr)
      · rw [List.mem_singleton.1 hr]
        exact .inr (issued_resetToken s u now (by simp [Event.drawn]))

theorem Tenure.step {terms terms' : List Term} (h : Tenure s.tokens ids t terms p)
    (apart : ids.Disjoint e.drawn) (step : Step s t e a t')
    (turn : ∀ q ∈ terms', q ∈ terms ∨ Issued s.tokens e.drawn q.token) :
    Tenure s.tokens (ids ++ e.drawn) t' terms' p where
  issued := h.issued.mono (List.subset_append_left _ _)
  owner := step.user?_isSome h.owner
  rows q hq same := by
    rcases turn q hq with hq | issued
    · exact h.rows q hq same
    · exact absurd apart (h.issued.disjoint (same ▸ issued))

theorem Tenure.of_sessionOf? {c : Token.Config} (h : Tenure c ids t (sessionTerms t) p)
    {x : Session} (behind : t.sessionOf? p.token = some x) :
    x.userId = p.userId ∧ x.expiresAt = p.ends := by
  obtain ⟨hx, same⟩ := mem_of_sessionOf? behind
  have row := h.rows _ (List.mem_map_of_mem hx) same
  exact ⟨congrArg Term.userId row, congrArg Term.ends row⟩

theorem Tenure.of_resetOf? {c : Token.Config} (h : Tenure c ids t (resetTerms t) p) {r : Reset}
    (behind : t.resetOf? p.token = some r) : r.userId = p.userId ∧ r.expiresAt = p.ends := by
  obtain ⟨hr, same⟩ := mem_of_resetOf? behind
  have row := h.rows _ (List.mem_map_of_mem hr) same
  exact ⟨congrArg Term.userId row, congrArg Term.ends row⟩

end

/-- An event that is answered so ends a session whose time is not over. -/
def Revokes (s : Service (StateM Tables)) (t : Tables) (x : Session) (e : Event) (a : Answer) :
    Prop :=
  Ends s t x e a ∧ a.isOk = true ∧ e.isSweep = false

section
variable {s : Service (StateM Tables)} {t t' : Tables} {e : Event} {a : Answer}

/-- A session leaves when it is revoked or past its time. -/
theorem Step.session_stays (step : Step s t e a t') (unique : (t.sessions.map (·.id)).Nodup)
    {x : Session} (hx : x ∈ t.sessions) :
    x ∈ t'.sessions ∨ Revokes s t x e a ∨ ∃ now ∈ e.times, x.isExpired now = true := by
  cases step with
  | refused | registered | late | absent | requested => exact .inl hx
  | opened => exact .inl (List.mem_append_left _ hx)
  | @lapsed token client now draws claims y valid behind expired =>
      by_cases own : t.sessionOf? token = some x
      · rw [own, Option.some.injEq] at behind
        exact .inr (.inr ⟨now, List.mem_cons_self, behind ▸ expired⟩)
      · exact .inl (mem_withoutSession unique behind hx own)
  | @renewed token client now draws claims u y valid known behind =>
      by_cases own : t.sessionOf? token = some x
      · exact .inr (.inl ⟨(mem_of_sessionOf? own).2.symm, rfl, rfl⟩)
      · exact .inl (List.mem_append_left _ (mem_withoutSession unique behind hx own))
  | @closed token y behind =>
      by_cases own : t.sessionOf? token = some x
      · exact .inr (.inl ⟨(mem_of_sessionOf? own).2.symm, rfl, rfl⟩)
      · exact .inl (mem_withoutSession unique behind hx own)
  | @allClosed userId n =>
      by_cases own : x.userId = userId
      · exact .inr (.inl ⟨own.symm, rfl, rfl⟩)
      · exact .inl (List.mem_filter.2 ⟨hx, decide_eq_true own⟩)
  | @changed token password now later salt claims u r q hash valid known behind owner =>
      by_cases own : x.userId = u.id
      · exact .inr (.inl ⟨⟨rfl, r, behind, owner.trans own.symm⟩, rfl, rfl⟩)
      · exact .inl (List.mem_filter.2 ⟨hx, decide_eq_true own⟩)
  | @swept now report =>
      cases expired : x.isExpired now with
      | true => exact .inr (.inr ⟨now, List.mem_cons_self, expired⟩)
      | false => exact .inl (List.mem_filter.2 ⟨hx, by rw [expired]; rfl⟩)

/-- A reset that is not used stays until it is used or past its time. -/
theorem Step.reset_stays (step : Step s t e a t') (unique : (t.resets.map (·.id)).Nodup)
    {r : Reset} (hr : r ∈ t.resets) (unused : r.isUsed = false) :
    r ∈ t'.resets ∨ isChange r.token (e, a) = true ∨ ∃ now ∈ e.times, r.isExpired now = true := by
  cases step with
  | refused | registered | late | absent | lapsed | closed | allClosed | opened | renewed =>
      exact .inl hr
  | requested => exact .inl (List.mem_append_left _ hr)
  | @changed token password now later salt claims u r' q hash valid known behind =>
      obtain ⟨hr', named⟩ := mem_of_resetOf? behind
      by_cases same : r.id = r'.id
      · have own : r = r' := List.inj_on_of_nodup_map unique hr hr' same
        exact .inr (.inl (decide_eq_true (own ▸ named.symm)))
      · exact .inl (List.mem_map.2 ⟨r, hr, if_neg same⟩)
  | @swept now report =>
      cases expired : r.isExpired now with
      | true => exact .inr (.inr ⟨now, List.mem_cons_self, expired⟩)
      | false =>
          have free : Tables.isClaimable r now = true := by
            rw [Tables.isClaimable, unused, expired]
            rfl
          exact .inl (List.mem_filter.2 ⟨hr, free⟩)

end

section
variable {tokens : Token.Config} {hashing : Password.Hasher} {t : Tables} {token : String}
  {client : Account.Client} {now later : Timestamp} {draws : Draws} {claims : Token.Claims}
  {u : User}

theorem Step.lasting_of_renewed {s : Service (StateM Tables)} {t' : Tables} {a : Answer}
    (step : Step s t (.refresh token client now draws) a t') (ok : a.isOk = true) :
    ∃ x, t.sessionOf? token = some x ∧ x.isExpired now = false := by
  cases step with
  | refused failed =>
      rw [failed] at ok
      cases ok
  | late | lapsed => cases ok
  | renewed valid known behind own lasting => exact ⟨_, behind, lasting⟩

theorem requestReset_of_known {email : String} (known : t.userOf? email = some u)
    (new : t.reset? draws.record = none)
    (unknown : t.resetOf? (tokens.issue .reset u.id u.email .user now.seconds draws.firstToken)
      = none) :
    ((inMemory tokens hashing).requestReset email now draws t).1
      = .ok (tokens.issue .reset u.id u.email .user now.seconds draws.firstToken) := by
  let token := tokens.issue .reset u.id u.email .user now.seconds draws.firstToken
  have made : Tables.createReset ((inMemory tokens hashing).resetFor u token now draws) t
      = (.ok (), withReset t ((inMemory tokens hashing).resetFor u token now draws)) :=
    createReset_of_new new unknown
  simp only [requestReset, bind_apply, run_inMemory, Tables.run, known, Tables.orNotFound,
    tokens_inMemory, made, token]
  rfl

theorem refresh_of_expired {x : Session}
    (valid : tokens.validate .refresh now.seconds token = .ok claims)
    (known : t.user? claims.userId = some u) (behind : t.sessionOf? token = some x)
    (own : x.userId = u.id) (expired : x.isExpired now = true) :
    ((inMemory tokens hashing).refresh token client now draws t).1 = .error .tokenExpired := by
  simp only [refresh, tokens_inMemory, valid, user, bind_apply, run_inMemory, Tables.run, known,
    Tables.orNotFound, pure_apply, behind]
  rw [if_neg (Decidable.not_not.2 own)]
  simp only [expired, if_true, bind_apply, run_inMemory, Tables.run]
  rfl

theorem resetPassword_of_expired {password : String} {salt : Bytes} {r : Reset}
    (valid : tokens.validate .reset now.seconds token = .ok claims)
    (known : t.user? claims.userId = some u) (behind : t.resetOf? token = some r)
    (own : r.userId = u.id) (expired : r.isExpired now = true) :
    ((inMemory tokens hashing).resetPassword token password now later salt t).1
      = .error .passwordResetExpired := by
  simp only [resetPassword, tokens_inMemory, valid, user, bind_apply, run_inMemory, Tables.run,
    known, Tables.orNotFound, pure_apply, behind]
  rw [if_neg (Decidable.not_not.2 own)]
  simp only [expired, if_true]
  rfl

/-- A token past its time is told to be so, whatever stands in the tables. -/
theorem refresh_of_late (late : tokens.validate .refresh now.seconds token = .error .expired) :
    ((inMemory tokens hashing).refresh token client now draws t).1 = .error .tokenExpired := by
  simp only [refresh, tokens_inMemory, late]
  rfl

theorem resetPassword_of_late {password : String} {salt : Bytes}
    (late : tokens.validate .reset now.seconds token = .error .expired) :
    ((inMemory tokens hashing).resetPassword token password now later salt t).1
      = .error .tokenExpired := by
  simp only [resetPassword, tokens_inMemory, late]
  rfl

end

/-- The refresh token that an answer hands out, and when. -/
def issuedRefresh? : Event × Answer → Option (Timestamp × String)
  | (.login _ _ _ now _, .pair (.ok pair)) => some (now, pair.refreshToken)
  | (.refresh _ _ now _, .pair (.ok pair)) => some (now, pair.refreshToken)
  | _ => none

/-- The reset token that an answer hands out, and when. -/
def issuedReset? : Event × Answer → Option (Timestamp × String)
  | (.requestReset _ now _, .token (.ok token)) => some (now, token)
  | _ => none

section
variable {s : Service (StateM Tables)} {t t' : Tables} {e : Event} {a : Answer} {now : Timestamp}
  {token : String}

theorem isOk_of_issuedRefresh (issued : issuedRefresh? (e, a) = some (now, token)) :
    a.isOk = true := by
  unfold issuedRefresh? at issued
  split at issued
  next same =>
    cases same
    rfl
  next same =>
    cases same
    rfl
  · cases issued

theorem isOk_of_issuedReset (issued : issuedReset? (e, a) = some (now, token)) :
    a.isOk = true := by
  unfold issuedReset? at issued
  split at issued
  next same =>
    cases same
    rfl
  · cases issued

/-- An event hands out a token of a kind for a user that is there. -/
structure Handed (c : Token.Config) (kind : Token.Kind) (e : Event) (t' : Tables)
    (now : Timestamp) (token : String) (userId : Uuid) : Prop where
  time : now ∈ e.times
  owner : (t'.user? userId).isSome = true
  made : ∃ email role, ∃ id ∈ e.drawn, token = c.issue kind userId email role now.seconds id

theorem Step.session_of_issued (step : Step s t e a t')
    (issued : issuedRefresh? (e, a) = some (now, token)) :
    ∃ x ∈ t'.sessions, x.refreshToken = token ∧
      x.expiresAt = endOf now s.tokens.refreshLifetime ∧
      Handed s.tokens .refresh e t' now token x.userId := by
  cases step with
  | refused failed =>
      rw [isOk_of_issuedRefresh issued] at failed
      cases failed
  | late | lapsed => cases isOk_of_issuedRefresh issued
  | registered | absent | closed | allClosed | requested | changed | swept => cases issued
  | @opened email password client at_ draws u known =>
      cases issued
      refine ⟨_, List.mem_append_right _ List.mem_cons_self, rfl, rfl, List.mem_cons_self, ?_,
        u.email, u.role, draws.secondToken, by simp [Event.drawn], rfl⟩
      exact user?_isSome_iff.2 ⟨u, (mem_of_userOf? known).1, rfl⟩
  | @renewed old client at_ draws claims u x valid known =>
      cases issued
      refine ⟨_, List.mem_append_right _ List.mem_cons_self, rfl, rfl, List.mem_cons_self, ?_,
        u.email, u.role, draws.secondToken, by simp [Event.drawn], rfl⟩
      exact user?_isSome_iff.2 ⟨u, (mem_of_user? known).1, rfl⟩

theorem Step.reset_of_issued (step : Step s t e a t')
    (issued : issuedReset? (e, a) = some (now, token)) :
    ∃ r ∈ t'.resets, r.isUsed = false ∧ r.token = token ∧
      r.expiresAt = endOf now s.tokens.resetLifetime ∧
      Handed s.tokens .reset e t' now token r.userId := by
  cases step with
  | refused failed =>
      rw [isOk_of_issuedReset issued] at failed
      cases failed
  | registered | opened | late | lapsed | renewed | absent | closed | allClosed | changed | swept =>
      cases issued
  | @requested email at_ draws u known =>
      cases issued
      refine ⟨_, List.mem_append_right _ List.mem_cons_self, rfl, rfl, rfl, List.mem_cons_self, ?_,
        u.email, .user, draws.firstToken, by simp [Event.drawn], rfl⟩
      exact user?_isSome_iff.2 ⟨u, (mem_of_userOf? known).1, rfl⟩

end

section
variable {c : Token.Config} {kind : Token.Kind} {e : Event} {t' : Tables} {t now : Timestamp}
  {token : String} {userId : Uuid}

theorem Handed.issued (h : Handed c kind e t' t token userId) : Issued c e.drawn token := by
  obtain ⟨email, role, id, drawn, same⟩ := h.made
  exact ⟨kind, userId, email, role, t.seconds, id, drawn, same⟩

/-- The token says the second in which its lifetime ends, or the last of all. -/
theorem Handed.carries (h : Handed c kind e t' t token userId) (placed : HasRoom t) :
    ∃ claims, Token.Carries token claims ∧
      claims.expires = min (t.seconds + c.lifetime kind) Token.maxTime := by
  obtain ⟨email, role, id, -, rfl⟩ := h.made
  have room := placed.room
  have range := c.inRange_claims kind userId email role id
    (Int.le_trans (by decide) placed.start) (s := t.seconds) (by omega)
  exact ⟨_, Token.carries_sign c.secret range,
    c.expires_claims kind userId email role id placed.start⟩

theorem Handed.validate_of_lasting (h : Handed c kind e t' t token userId) (placed : HasRoom t)
    (since : t ≤ now) (lasting : now ≤ endOf t (c.lifetime kind)) :
    ∃ claims, c.validate kind now.seconds token = .ok claims ∧ claims.userId = userId := by
  obtain ⟨email, role, id, -, rfl⟩ := h.made
  exact ⟨_, Service.validate_of_lasting placed since lasting, rfl⟩

theorem Handed.validate_cases (h : Handed c kind e t' t token userId) (placed : HasRoom t)
    (since : t ≤ now) : c.validate kind now.seconds token = .error .expired ∨
      ∃ claims, c.validate kind now.seconds token = .ok claims ∧ claims.userId = userId := by
  obtain ⟨email, role, id, -, rfl⟩ := h.made
  exact Service.validate_cases placed since

end

/-- Nothing that is served after a run revokes the session of the token; sweeps do not count. -/
def Unrevoked (s : Service (StateM Tables)) (run middle : List Event) (token : String) : Prop :=
  ∀ before f after, middle = before ++ f :: after →
    let t := (history s (run ++ before)).tables
    ∀ x, t.sessionOf? token = some x → ¬ Revokes s t x f (answerAfter s (run ++ before) f)

/-- Nothing that is served after a run changes a password with the token. -/
def Unconsumed (s : Service (StateM Tables)) (run middle : List Event) (token : String) : Prop :=
  ∀ before f after, middle = before ++ f :: after →
    isChange token (f, answerAfter s (run ++ before) f) = false

section
variable {s : Service (StateM Tables)} {run middle : List Event} {f : Event} {token : String}

theorem Unrevoked.init (h : Unrevoked s run (middle ++ [f]) token) :
    Unrevoked s run middle token := by
  rintro before g after rfl
  exact h before g (after ++ [f]) (by simp)

theorem Unconsumed.init (h : Unconsumed s run (middle ++ [f]) token) :
    Unconsumed s run middle token := by
  rintro before g after rfl
  exact h before g (after ++ [f]) (by simp)

theorem unrevoked_of_sweeps (swept : ∀ f ∈ middle, f.isSweep = true) :
    Unrevoked s run middle token := by
  rintro before f after rfl t x - ⟨-, -, asked⟩
  rw [swept f (by simp)] at asked
  cases asked

theorem unconsumed_of_sweeps (swept : ∀ f ∈ middle, f.isSweep = true) :
    Unconsumed s run middle token := by
  rintro before f after rfl
  refine Bool.eq_false_iff.2 fun changed => ?_
  obtain ⟨_, _, _, _, same, -⟩ := eq_resetPassword_of_isChange changed
  have asked : f.isSweep = true := swept f (by simp)
  rw [show f = _ from same] at asked
  cases asked

end

section
variable (tokens : Token.Config) (hashing : Password.Hasher) {es middle : List Event} {e : Event}

theorem tenure_history {terms : Tables → List Term} {p : Term}
    (turn : ∀ {t t' e a}, Step (inMemory tokens hashing) t e a t' → ∀ q ∈ terms t',
      q ∈ terms t ∨ Issued tokens e.drawn q.token)
    (distinct : Distinct (es ++ middle))
    (h : Tenure tokens (drawnBy es) (history (inMemory tokens hashing) es).tables
      (terms (history (inMemory tokens hashing) es).tables) p) :
    Tenure tokens (drawnBy (es ++ middle))
      (history (inMemory tokens hashing) (es ++ middle)).tables
      (terms (history (inMemory tokens hashing) (es ++ middle)).tables) p := by
  induction middle using List.reverseRecOn with
  | nil => rwa [List.append_nil]
  | append_singleton middle f ih =>
      rw [← List.append_assoc] at distinct ⊢
      have step := step_history tokens hashing (es ++ middle) f
      rw [drawnBy_concat]
      exact (ih distinct.init).step distinct.disjoint step (turn step)

theorem session_stays_history (distinct : Distinct (es ++ middle)) {x : Session}
    (hx : x ∈ (history (inMemory tokens hashing) es).tables.sessions)
    (unrevoked : Unrevoked (inMemory tokens hashing) es middle x.refreshToken)
    (early : ∀ f ∈ middle, ∀ now ∈ f.times, now ≤ x.expiresAt) :
    x ∈ (history (inMemory tokens hashing) (es ++ middle)).tables.sessions := by
  induction middle using List.reverseRecOn with
  | nil => rwa [List.append_nil]
  | append_singleton middle f ih =>
      rw [← List.append_assoc] at distinct ⊢
      have there := ih distinct.init unrevoked.init
        fun g hg => early g (List.mem_append_left _ hg)
      have recorded := recorded_history tokens hashing distinct.init
      have unique := (nodup_history tokens hashing (es ++ middle)).1
      rcases (step_history tokens hashing (es ++ middle) f).session_stays unique there with
        stays | revoked | ⟨now, hnow, expired⟩
      · exact stays
      · -- the row is still the one that the token finds, so it is what was not revoked
        have behind := find?_key recorded.sessionTokens there
        exact absurd revoked (unrevoked middle f [] rfl x behind)
      · exact absurd (of_decide_eq_true expired) (early f (by simp) now hnow)

theorem reset_stays_history {r : Reset}
    (hr : r ∈ (history (inMemory tokens hashing) es).tables.resets) (unused : r.isUsed = false)
    (unconsumed : Unconsumed (inMemory tokens hashing) es middle r.token)
    (early : ∀ f ∈ middle, ∀ now ∈ f.times, now ≤ r.expiresAt) :
    r ∈ (history (inMemory tokens hashing) (es ++ middle)).tables.resets := by
  induction middle using List.reverseRecOn with
  | nil => rwa [List.append_nil]
  | append_singleton middle f ih =>
      rw [← List.append_assoc]
      have there := ih unconsumed.init fun g hg => early g (List.mem_append_left _ hg)
      have unique := (nodup_history tokens hashing (es ++ middle)).2
      rcases (step_history tokens hashing (es ++ middle) f).reset_stays unique there unused with
        stays | changed | ⟨now, hnow, expired⟩
      · exact stays
      · rw [unconsumed middle f [] rfl] at changed
        cases changed
      · exact absurd (of_decide_eq_true expired) (early f (by simp) now hnow)

/-- What happens before an event happens at its times at the latest. -/
theorem Ordered.le_last {run : List Event} {last : Event} (ordered : Ordered (run ++ [last]))
    {now : Timestamp} (hnow : now ∈ last.times) : ∀ f ∈ run, ∀ x ∈ f.times, x ≤ now := by
  intro f hf x hx
  obtain ⟨before, after, rfl⟩ := List.append_of_mem hf
  rw [List.append_assoc] at ordered
  exact ordered.le (List.mem_append_right _ List.mem_cons_self) hx hnow

theorem Ordered.pairwise_last {run : List Event} {last : Event}
    (ordered : Ordered (run ++ [last])) : last.times.Pairwise (· ≤ ·) := by
  rw [Ordered, List.flatMap_append, List.flatMap_singleton] at ordered
  exact (List.pairwise_append.1 ordered).2.1

/-- The row that was made with a token is the only one that it ever has. -/
theorem tenure_of_handed {terms : Tables → List Term}
    (turn : ∀ {t t' e a}, Step (inMemory tokens hashing) t e a t' → ∀ q ∈ terms t',
      q ∈ terms t ∨ Issued tokens e.drawn q.token)
    (distinct : Distinct (es ++ [e] ++ middle))
    (unique : ((terms (history (inMemory tokens hashing) (es ++ [e])).tables).map
      Term.token).Nodup) {p : Term}
    (hp : p ∈ terms (history (inMemory tokens hashing) (es ++ [e])).tables) {kind : Token.Kind}
    {t : Timestamp}
    (handed : Handed tokens kind e (history (inMemory tokens hashing) (es ++ [e])).tables t
      p.token p.userId) :
    Tenure tokens (drawnBy (es ++ [e] ++ middle))
      (history (inMemory tokens hashing) (es ++ [e] ++ middle)).tables
      (terms (history (inMemory tokens hashing) (es ++ [e] ++ middle)).tables) p := by
  refine tenure_history tokens hashing turn distinct ⟨?_, handed.owner, ?_⟩
  · rw [drawnBy_concat]
    exact handed.issued.mono (List.subset_append_right _ _)
  · exact fun q hq same => List.inj_on_of_nodup_map unique hq hp same

/-- A refresh token is renewed up to the end of its row, and told to have expired after it. -/
theorem refresh_lifetime {token : String} {t now : Timestamp} {client : Account.Client}
    {draws : Draws} (placed : HasRoom t)
    (distinct : Distinct (es ++ [e] ++ middle ++ [.refresh token client now draws]))
    (ordered : Ordered (es ++ [e] ++ middle ++ [.refresh token client now draws]))
    (issued : issuedRefresh? (e, answerAfter (inMemory tokens hashing) es e) = some (t, token)) :
    let s := inMemory tokens hashing
    let ends := endOf t tokens.refreshLifetime
    let answer := answerAfter s (es ++ [e] ++ middle) (.refresh token client now draws)
    (now ≤ ends → Unrevoked s (es ++ [e]) middle token → answer.isOk = true) ∧
    (ends < now → answer.isOk = false ∧
      ((history s (es ++ [e] ++ middle)).tables.sessionOf? token ≠ none →
        answer = .pair (.error .tokenExpired))) := by
  intro s ends answer
  have recorded := recorded_history tokens hashing distinct.init.init
  have recorded' := recorded_history tokens hashing distinct.init
  obtain ⟨x, hx, rfl, ending, handed⟩ :=
    (step_history tokens hashing es e).session_of_issued issued
  have since : t ≤ now := ordered.le_last List.mem_cons_self e (by simp) t handed.time
  have unique : ((sessionTerms (history s (es ++ [e])).tables).map Term.token).Nodup := by
    rw [sessionTerms, List.map_map]
    exact recorded.sessionTokens
  have tenure := tenure_of_handed tokens hashing Step.sessionTerms distinct.init unique
    (List.mem_map_of_mem hx) handed
  obtain ⟨v, known⟩ := Option.isSome_iff_exists.1 tenure.owner
  dsimp only at known
  have named : v.id = x.userId := (mem_of_user? known).2
  refine ⟨fun lasting unrevoked => ?_, fun late => ⟨?_, fun present => ?_⟩⟩
  · have early : ∀ f ∈ middle, ∀ m ∈ f.times, m ≤ x.expiresAt := fun f hf m hm =>
      Timestamp.le_trans
        (ordered.le_last List.mem_cons_self f (List.mem_append_right _ hf) m hm) (ending ▸ lasting)
    have stays := session_stays_history tokens hashing distinct.init hx unrevoked early
    have found := find?_key recorded'.sessionTokens stays
    have new := (fresh_history tokens hashing distinct).sessions draws.record
      (by simp [Event.drawn])
    obtain ⟨claims, valid, own⟩ := handed.validate_of_lasting placed since lasting
    rw [← own] at known
    have renewed : s.refresh x.refreshToken client now draws
        (history s (es ++ [e] ++ middle)).tables = (.ok (s.pairFor v now draws), _) :=
      refresh_of_lasting valid known found named.symm (decide_eq_false (ending ▸ lasting)) new
    exact congrArg (fun o => o.1.isOk) renewed
  · refine Bool.eq_false_iff.2 fun ok => ?_
    obtain ⟨y, behind, lasting⟩ := (step_history tokens hashing _ _).lasting_of_renewed ok
    have due : y.expiresAt = ends := (tenure.of_sessionOf? behind).2.trans ending
    exact absurd (due ▸ late) (of_decide_eq_false lasting)
  · obtain ⟨y, behind⟩ := Option.ne_none_iff_exists'.1 present
    obtain ⟨own, due⟩ := tenure.of_sessionOf? behind
    have own : y.userId = v.id := own.trans named.symm
    have expired : y.isExpired now = true := decide_eq_true (due.trans ending ▸ late)
    -- after its row the token may still be good for a while, or for ever: the row decides then
    have told : ((inMemory tokens hashing).refresh x.refreshToken client now draws
        (history s (es ++ [e] ++ middle)).tables).1 = .error .tokenExpired := by
      rcases handed.validate_cases placed since with gone | ⟨claims, valid, user⟩
      · exact refresh_of_late gone
      · rw [← user] at known
        exact refresh_of_expired valid known behind own expired
    exact congrArg Answer.pair told

/-- A reset token is taken up to the end of its row. The row is looked at twice, and the token is
told to have expired if that is seen at first. -/
theorem reset_lifetime {token password : String} {t now later : Timestamp} {salt : Bytes}
    (placed : HasRoom t) (distinct : Distinct (es ++ [e] ++ middle))
    (ordered : Ordered (es ++ [e] ++ middle ++ [.resetPassword token password now later salt]))
    (issued : issuedReset? (e, answerAfter (inMemory tokens hashing) es e) = some (t, token)) :
    let s := inMemory tokens hashing
    let ends := endOf t tokens.resetLifetime
    let answer := answerAfter s (es ++ [e] ++ middle)
      (.resetPassword token password now later salt)
    (later ≤ ends → Unconsumed s (es ++ [e]) middle token →
      (∃ hash, Password.hash hashing.settings salt password = .ok hash) → answer.isOk = true) ∧
    (ends < later → answer.isOk = false) ∧
    (ends < now → (history s (es ++ [e] ++ middle)).tables.resetOf? token ≠ none →
      answer = .change (.error .tokenExpired) ∨
        answer = .change (.error .passwordResetExpired)) := by
  intro s ends answer
  have recorded := recorded_history tokens hashing distinct.init
  have recorded' := recorded_history tokens hashing distinct
  obtain ⟨r, hr, unused, rfl, ending, handed⟩ :=
    (step_history tokens hashing es e).reset_of_issued issued
  have since : t ≤ now := ordered.le_last (by simp [Event.times]) e (by simp) t handed.time
  have unique : ((resetTerms (history s (es ++ [e])).tables).map Term.token).Nodup := by
    rw [resetTerms, List.map_map]
    exact recorded.resetTokens
  have tenure := tenure_of_handed tokens hashing Step.resetTerms distinct unique
    (List.mem_map_of_mem hr) handed
  obtain ⟨v, known⟩ := Option.isSome_iff_exists.1 tenure.owner
  dsimp only at known
  have named : v.id = r.userId := (mem_of_user? known).2
  have ending : r.expiresAt = ends := ending
  have forward : now ≤ later := List.rel_of_pairwise_cons ordered.pairwise_last List.mem_cons_self
  refine ⟨fun lasting unconsumed hashes => ?_, fun late => ?_, fun late present => ?_⟩
  · obtain ⟨hash, hashed⟩ := hashes
    have inTime : later ≤ r.expiresAt := ending ▸ lasting
    have early : ∀ f ∈ middle, ∀ m ∈ f.times, m ≤ r.expiresAt := fun f hf m hm =>
      Timestamp.le_trans (ordered.le_last (List.mem_cons_of_mem _ List.mem_cons_self) f
        (List.mem_append_right _ hf) m hm) inTime
    have stays := reset_stays_history tokens hashing hr unused unconsumed early
    have behind := find?_key recorded'.resetTokens stays
    have claimed := find?_key recorded'.resetIds stays
    have soon : now ≤ r.expiresAt := Timestamp.le_trans forward inTime
    have free : Tables.isClaimable r later = true := by
      rw [Tables.isClaimable, unused, Reset.isExpired, decide_eq_false inTime]
      rfl
    obtain ⟨claims, valid, own⟩ := handed.validate_of_lasting placed since
      (Timestamp.le_trans forward lasting)
    rw [← own] at known
    have done := resetPassword_of_free valid known behind named.symm (decide_eq_false soon) claimed
      free hashed
    exact congrArg (fun o => o.1.isOk) done
  · refine Bool.eq_false_iff.2 fun ok => ?_
    obtain ⟨claims, q, -, behind, -, lasting, -⟩ :=
      (step_history tokens hashing _ _).used recorded' ok
    have due : q.expiresAt = ends := (tenure.of_resetOf? behind).2.trans ending
    exact absurd late (due ▸ lasting)
  · obtain ⟨q, behind⟩ := Option.ne_none_iff_exists'.1 present
    obtain ⟨own, due⟩ := tenure.of_resetOf? behind
    have own : q.userId = v.id := own.trans named.symm
    have expired : q.isExpired now = true := decide_eq_true (due.trans ending ▸ late)
    rcases handed.validate_cases placed since with gone | ⟨claims, valid, user⟩
    · exact .inl (congrArg Answer.change (resetPassword_of_late gone))
    · rw [← user] at known
      exact .inr (congrArg Answer.change (resetPassword_of_expired valid known behind own expired))

/-- Refresh and reset tokens live as long as it is set. No lifetime is too long to be added to the
time of the issue: the row of the token ends when the lifetime has passed, or after a hundred
years, and the token says the second of its end or the last of all. Up to the end of its row a
token is taken, unless it was used or its session was ended, and whether there are sweeps or not.
After that it is refused, and as long as the row is there it is told to have expired. -/
theorem tokens_live_as_set {last : Event} {t : Timestamp} {token : String} (placed : HasRoom t)
    (distinct : Distinct (es ++ [e] ++ middle ++ [last]))
    (ordered : Ordered (es ++ [e] ++ middle ++ [last])) :
    let s := inMemory tokens hashing
    let after := (history s (es ++ [e])).tables
    let now := (history s (es ++ [e] ++ middle)).tables
    let answer := answerAfter s (es ++ [e] ++ middle) last
    (∀ lifetime latest, ⟨t.seconds + century, t.nanos⟩ ≤ latest → expiry t lifetime ≤ latest) ∧
    (issuedRefresh? (e, answerAfter s es e) = some (t, token) →
      let ends := endOf t tokens.refreshLifetime
      (∃ x ∈ after.sessions, x.refreshToken = token ∧ x.expiresAt = ends) ∧
      (∃ c, Token.Carries token c ∧
        c.expires = min (t.seconds + tokens.refreshLifetime) Token.maxTime) ∧
      ∀ client at_ draws, last = .refresh token client at_ draws →
        (at_ ≤ ends → Unrevoked s (es ++ [e]) middle token → answer.isOk = true) ∧
        (ends < at_ → answer.isOk = false ∧
          (now.sessionOf? token ≠ none → answer = .pair (.error .tokenExpired)))) ∧
    (issuedReset? (e, answerAfter s es e) = some (t, token) →
      let ends := endOf t tokens.resetLifetime
      (∃ r ∈ after.resets, r.token = token ∧ r.expiresAt = ends) ∧
      (∃ c, Token.Carries token c ∧
        c.expires = min (t.seconds + tokens.resetLifetime) Token.maxTime) ∧
      ∀ password at_ later salt, last = .resetPassword token password at_ later salt →
        (later ≤ ends → Unconsumed s (es ++ [e]) middle token →
          (∃ hash, Password.hash hashing.settings salt password = .ok hash) → answer.isOk = true) ∧
        (ends < later → answer.isOk = false) ∧
        (ends < at_ → now.resetOf? token ≠ none →
          answer = .change (.error .tokenExpired) ∨
            answer = .change (.error .passwordResetExpired))) := by
  intro s after now answer
  refine ⟨fun lifetime latest room => expiry_le lifetime room, fun issued => ?_,
    fun issued => ?_⟩
  · obtain ⟨x, hx, same, ending, handed⟩ :=
      (step_history tokens hashing es e).session_of_issued issued
    refine ⟨⟨x, hx, same, ending⟩, handed.carries placed, ?_⟩
    rintro client at_ draws rfl
    exact refresh_lifetime tokens hashing placed distinct ordered issued
  · obtain ⟨r, hr, -, same, ending, handed⟩ :=
      (step_history tokens hashing es e).reset_of_issued issued
    refine ⟨⟨r, hr, same, ending⟩, handed.carries placed, ?_⟩
    rintro password at_ later salt rfl
    exact reset_lifetime tokens hashing placed distinct.init ordered issued

end

/-- No lifetime at all, a minute and a half, and the longest that can be set, with a sweep before
the token is tried: in the last moment of its row, and in the next. -/
theorem tokens_live_as_set_extremes :
    let tokens (life : Nat) : Token.Config :=
      { secret := "k", refreshLifetime := life, resetLifetime := life }
    let register := Event.register "a@b.cd" "first" none ⟨0, 0⟩ ⟨⟨0⟩, ⟨0⟩, ⟨1⟩, sampleSalt⟩
    let client : Account.Client := ⟨"", ""⟩
    let login := Event.login "a@b.cd" "first" client ⟨10, 5⟩ ⟨⟨2⟩, ⟨3⟩, ⟨4⟩, []⟩
    let request := Event.requestReset "a@b.cd" ⟨10, 5⟩ ⟨⟨2⟩, ⟨0⟩, ⟨3⟩, []⟩
    let sweep := Event.sweep ⟨10, 5⟩
    let refresh (life : Nat) (at_ : Timestamp) := Event.refresh
      ((tokens life).issue .refresh ⟨1⟩ "a@b.cd" .user 10 ⟨3⟩) client at_ ⟨⟨5⟩, ⟨6⟩, ⟨7⟩, []⟩
    let change (life : Nat) (at_ : Timestamp) := Event.resetPassword
      ((tokens life).issue .reset ⟨1⟩ "a@b.cd" .user 10 ⟨2⟩) "second" at_ at_ sampleSalt
    HasRoom ⟨10, 5⟩ ∧
    ∀ e ∈ [(0, (10 : Int)), (90, 100), (Bounds.max64, 3153600010)],
      let s := inMemory (tokens e.1) {}
      (∀ nanos ∈ [5, 6], Distinct [register, login, sweep, refresh e.1 ⟨e.2, nanos⟩] ∧
        Ordered [register, login, sweep, refresh e.1 ⟨e.2, nanos⟩] ∧
        Distinct [register, request, sweep, change e.1 ⟨e.2, nanos⟩] ∧
        Ordered [register, request, sweep, change e.1 ⟨e.2, nanos⟩]) ∧
      (answerAfter s [register, login, sweep] (refresh e.1 ⟨e.2, 5⟩)).isOk = true ∧
      (answerAfter s [register, login, sweep] (refresh e.1 ⟨e.2, 6⟩)).isOk = false ∧
      (answerAfter s [register, request, sweep] (change e.1 ⟨e.2, 5⟩)).isOk = true ∧
      (answerAfter s [register, request, sweep] (change e.1 ⟨e.2, 6⟩)).isOk = false := by
  intro tokens register client login request sweep refresh change
  have placed : HasRoom ⟨10, 5⟩ := ⟨by decide, by decide⟩
  refine ⟨placed, fun e he => ?_⟩
  obtain ⟨life, second⟩ := e
  intro s
  dsimp only
  have ends (lasting : Nat) (le : lasting ≤ 5) :
      (⟨second, lasting⟩ : Timestamp) ≤ endOf ⟨10, 5⟩ life ∧
        endOf ⟨10, 5⟩ life < (⟨second, 6⟩ : Timestamp) := by
    have last : second = 10 + min (life : Int) century :=
      (by decide : ∀ e ∈ [(0, (10 : Int)), (90, 100), (Bounds.max64, 3153600010)],
        e.2 = 10 + min (e.1 : Int) century) _ he
    rw [Timestamp.le_def, Timestamp.lt_def, Timestamp.lt_def, endOf]
    dsimp only
    omega
  have distinct (nanos : Nat) :
      Distinct ([register] ++ [login] ++ [sweep] ++ [refresh life ⟨second, nanos⟩]) :=
    (by decide : [Uuid.mk 1, ⟨2⟩, ⟨3⟩, ⟨4⟩, ⟨5⟩, ⟨6⟩, ⟨7⟩].Nodup)
  have distinct' (nanos : Nat) :
      Distinct ([register] ++ [request] ++ [sweep] ++ [change life ⟨second, nanos⟩]) :=
    (by decide : [Uuid.mk 1, ⟨2⟩, ⟨3⟩].Nodup)
  have ordered : ∀ nanos ∈ [5, 6],
      Ordered ([register] ++ [login] ++ [sweep] ++ [refresh life ⟨second, nanos⟩]) :=
    (by decide : ∀ e ∈ [(0, (10 : Int)), (90, 100), (Bounds.max64, 3153600010)], ∀ nanos ∈ [5, 6],
      Ordered ([register] ++ [login] ++ [sweep] ++ [refresh e.1 ⟨e.2, nanos⟩])) (life, second) he
  have ordered' : ∀ nanos ∈ [5, 6],
      Ordered ([register] ++ [request] ++ [sweep] ++ [change life ⟨second, nanos⟩]) :=
    (by decide : ∀ e ∈ [(0, (10 : Int)), (90, 100), (Bounds.max64, 3153600010)], ∀ nanos ∈ [5, 6],
      Ordered ([register] ++ [request] ++ [sweep] ++ [change e.1 ⟨e.2, nanos⟩])) (life, second) he
  have swept : ∀ f ∈ [sweep], f.isSweep = true := by decide
  obtain ⟨u, self, address, role, hashed, tables⟩ : ∃ u : User, u.id = ⟨1⟩ ∧ u.email = "a@b.cd" ∧
      u.role = .user ∧ Password.hash {} sampleSalt "first" = .ok u.passwordHash ∧
      (history s [register]).tables = ⟨[u], [], []⟩ :=
    ⟨⟨⟨1⟩, "a@b.cd", _, .user, ⟨0, 0⟩, ⟨0, 0⟩⟩, rfl, rfl, rfl, rfl, rfl⟩
  have known : (Tables.mk [u] [] []).userOf? "a@b.cd" = some u := by
    rw [Tables.userOf?, List.find?_cons_of_pos (by simp [address])]
  have issued : issuedRefresh? (login, answerAfter s [register] login)
      = some (⟨10, 5⟩, (tokens life).issue .refresh ⟨1⟩ "a@b.cd" .user 10 ⟨3⟩) := by
    have right : Password.verify "first" u.passwordHash = true :=
      Password.verify_hash hashed (by decide) (by decide)
    have answer : answerAfter s [register] login
        = .pair (.ok (s.pairFor u ⟨10, 5⟩ ⟨⟨2⟩, ⟨3⟩, ⟨4⟩, []⟩)) := by
      have entered : (inMemory (tokens life) {}).login "a@b.cd" "first" client ⟨10, 5⟩
          ⟨⟨2⟩, ⟨3⟩, ⟨4⟩, []⟩ ⟨[u], [], []⟩ = _ := login_of_verified known right rfl
      rw [answerAfter, tables]
      exact congrArg (Answer.pair ·.1) entered
    rw [answer, ← self, ← address, ← role]
    rfl
  have issued' : issuedReset? (request, answerAfter s [register] request)
      = some (⟨10, 5⟩, (tokens life).issue .reset ⟨1⟩ "a@b.cd" .user 10 ⟨2⟩) := by
    have answer : answerAfter s [register] request
        = .token (.ok ((tokens life).issue .reset u.id u.email .user 10 ⟨2⟩)) := by
      rw [answerAfter, tables]
      exact congrArg Answer.token (requestReset_of_known known rfl rfl)
    rw [answer, ← self, ← address]
    rfl
  have refreshed (nanos : Nat) (hn : nanos ∈ [5, 6]) := ((tokens_live_as_set (tokens life) {}
    placed (distinct nanos) (ordered nanos hn)).2.1 issued).2.2 _ _ _ rfl
  have changed (nanos : Nat) (hn : nanos ∈ [5, 6]) := ((tokens_live_as_set (tokens life) {}
    placed (distinct' nanos) (ordered' nanos hn)).2.2 issued').2.2 _ _ _ _ rfl
  refine ⟨fun nanos hn => ⟨distinct nanos, ordered nanos hn, distinct' nanos,
    ordered' nanos hn⟩, ?_, ?_, ?_, ?_⟩
  · exact (refreshed 5 (by decide)).1 (ends 5 (by decide)).1 (unrevoked_of_sweeps swept)
  · exact ((refreshed 6 (by decide)).2 (ends 5 (by decide)).2).1
  · exact (changed 5 (by decide)).1 (ends 5 (by decide)).1 (unconsumed_of_sweeps swept) ⟨_, rfl⟩
  · exact (changed 6 (by decide)).2.1 (ends 5 (by decide)).2

end Gatehouse.Service
