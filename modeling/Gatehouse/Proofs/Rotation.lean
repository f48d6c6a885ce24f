import Gatehouse.Proofs.Issuing
import Gatehouse.Proofs.PasswordReading
import Gatehouse.Proofs.Run
import Mathlib.Data.List.Nodup

/-!
Refresh tokens are good for one renewal. A token whose session has ended is not accepted
again, and of the tokens that descend from one login one at most has a session.
-/

namespace Gatehouse.Service

open Account (User Session Reset)
open Store (Tables)

/-- An event that is answered so ends a session of the tables before it. -/
def Ends (s : Service (StateM Tables)) (t : Tables) (x : Session) : Event → Answer → Prop
  | .refresh token _ _ _, .pair (.ok _) => token = x.refreshToken
  | .refresh token _ now _, .pair (.error .tokenExpired) =>
      token = x.refreshToken ∧
        ∃ claims, s.tokens.validate .refresh now.seconds token = .ok claims
  | .logout token, .ended (.ok ()) => token = x.refreshToken
  | .logoutAll userId, .count (.ok _) => userId = x.userId
  | .resetPassword token _ _ _ _, .change (.ok o) =>
      o.isClean = true ∧ ∃ r, t.resetOf? token = some r ∧ r.userId = x.userId
  | .sweep now, .swept _ => x.isExpired now = true
  | _, _ => False

/-- The chains of refresh tokens: a login begins one, and a renewal adds its token to that of
the token it was given. -/
def extend (chains : List (List String)) : Event × Answer → List (List String)
  | (.login .., .pair (.ok pair)) => chains ++ [[pair.refreshToken]]
  | (.refresh token _ _ _, .pair (.ok pair)) =>
      chains.map fun chain => if token ∈ chain then chain ++ [pair.refreshToken] else chain
  | _ => chains

def chains (log : List (Event × Answer)) : List (List String) := log.foldl extend []

/-- The sessions of a chain. -/
def liveIn (t : Tables) (chain : List String) : List Session :=
  t.sessions.filter (·.refreshToken ∈ chain)

section
variable {t : Tables}

/-- Where no token stands twice, leaving out the session of one leaves out the token. -/
theorem not_mem_tokens_filter (unique : (sessionTokens t).Nodup) {x : Session}
    (hx : x ∈ t.sessions) {keep : Session → Bool} (out : keep x = false) :
    x.refreshToken ∉ (t.sessions.filter keep).map (·.refreshToken) := by
  intro h
  obtain ⟨y, hy, same⟩ := List.mem_map.1 h
  rw [List.mem_filter] at hy
  have eq := List.inj_on_of_nodup_map unique hy.1 hx same
  rw [eq, out] at hy
  cases hy.2

theorem not_mem_tokens_withoutSession (unique : (sessionTokens t).Nodup) {token : String}
    {x : Session} (behind : t.sessionOf? token = some x) :
    token ∉ sessionTokens (withoutSession t x.id) := by
  obtain ⟨hx, rfl⟩ := mem_of_sessionOf? behind
  exact not_mem_tokens_filter unique hx (by simp)

end

section
variable {s : Service (StateM Tables)} {t t' : Tables} {e : Event} {a : Answer}
  {ids : List Uuid}

theorem not_ends_of_failed (failed : a.isOk = false) (early : a ≠ .pair (.error .tokenExpired))
    (x : Session) : ¬ Ends s t x e a := by
  intro ends
  unfold Ends at ends
  split at ends
  case h_2 => exact early rfl
  case h_7 => exact ends
  all_goals cases failed

theorem Recorded.not_mem_sessionTokens (recorded : Recorded s.tokens ids t) {token : String}
    (new : Issued s.tokens e.drawn token) (apart : ids.Disjoint e.drawn) :
    token ∉ Service.sessionTokens t :=
  fun h => (recorded.sessions _ h).disjoint new apart

theorem Step.ends (recorded : Recorded s.tokens ids t) (apart : ids.Disjoint e.drawn)
    (step : Step s t e a t') {x : Session} (hx : x ∈ t.sessions) (ends : Ends s t x e a) :
    t'.sessionOf? x.refreshToken = none := by
  rw [sessionOf?_eq_none_iff]
  have unique := recorded.sessionTokens
  cases step with
  | refused failed early => exact absurd ends (not_ends_of_failed failed early x)
  | registered | opened | requested => cases ends
  | late expired =>
      obtain ⟨-, claims, valid⟩ := ends
      rw [expired] at valid
      cases valid
  | absent missing =>
      cases ends
      exact sessionOf?_eq_none_iff.1 missing
  | lapsed valid behind =>
      cases ends.1
      exact not_mem_tokens_withoutSession unique behind
  | closed behind =>
      cases ends
      exact not_mem_tokens_withoutSession unique behind
  | @renewed token client now draws claims u y valid known behind =>
      cases ends
      have tokens : sessionTokens (withSession (withoutSession t y.id)
          (Service.opened s u client now draws)) = sessionTokens (withoutSession t y.id)
            ++ [(Service.opened s u client now draws).refreshToken] := List.map_append ..
      rw [tokens, List.mem_append, List.mem_singleton, not_or]
      refine ⟨not_mem_tokens_withoutSession unique behind, fun same => ?_⟩
      have new : Issued s.tokens (Event.refresh x.refreshToken client now draws).drawn
          (Service.opened s u client now draws).refreshToken :=
        issued_opened s u client now (by simp [Event.drawn])
      have old : x.refreshToken ∈ sessionTokens t := List.mem_map_of_mem hx
      exact recorded.not_mem_sessionTokens new apart (same ▸ old)
  | allClosed => exact not_mem_tokens_filter unique hx (by simpa using Eq.symm ends)
  | @changed token password now later salt claims u r q hash valid known behind own =>
      obtain ⟨-, r', behind', owner⟩ := ends
      rw [behind, Option.some.injEq] at behind'
      subst behind'
      exact not_mem_tokens_filter unique hx (by simp [← owner, own])
  | swept => exact not_mem_tokens_filter unique hx (by rw [ends]; rfl)

/-- A token that was issued and has no session. -/
structure Spent (c : Token.Config) (ids : List Uuid) (t : Tables) (token : String) : Prop where
  issued : Issued c ids token
  gone : t.sessionOf? token = none

/-- A spent token stays so: what is issued next is another. -/
theorem Spent.step {token : String} (h : Spent s.tokens ids t token)
    (apart : ids.Disjoint e.drawn) (step : Step s t e a t') :
    Spent s.tokens (ids ++ e.drawn) t' token := by
  refine ⟨h.issued.mono (List.subset_append_left _ _), ?_⟩
  rw [sessionOf?_eq_none_iff]
  intro ht
  rcases step.turnover_sessions.mem ht with ht | issued
  · exact sessionOf?_eq_none_iff.1 h.gone ht
  · exact h.issued.disjoint issued apart

theorem Step.sessionOf?_of_isOk {token : String} {client : Account.Client} {now : Timestamp}
    {draws : Draws} (step : Step s t (.refresh token client now draws) a t')
    (ok : a.isOk = true) : ∃ x, t.sessionOf? token = some x := by
  cases step with
  | refused failed =>
      rw [failed] at ok
      cases ok
  | late | lapsed => cases ok
  | renewed valid known behind => exact ⟨_, behind⟩

/-- The tokens of a chain were issued, and one session at most has one of them. -/
structure Single (c : Token.Config) (ids : List Uuid) (t : Tables) (chain : List String) :
    Prop where
  issued : ∀ token ∈ chain, Issued c ids token
  live : (liveIn t chain).length ≤ 1

/-- Unless a login or a renewal succeeds, chains stay as they are. -/
theorem extend_of_failed (failed : a.isOk = false) (cs : List (List String)) :
    extend cs (e, a) = cs := by
  unfold extend
  split
  next same =>
    cases same
    cases failed
  next same =>
    cases same
    cases failed
  next => rfl

section
variable {c : Token.Config} {drawn : List Uuid} {chain : List String} {x : Session}

theorem Single.of_sublist (h : Single c ids t chain) (sub : t'.sessions.Sublist t.sessions) :
    Single c ids t' chain where
  issued := h.issued
  live := Nat.le_trans (sub.filter _).length_le h.live

theorem Single.kept (h : Single c ids t chain) (sub : t'.sessions.Sublist t.sessions) :
    Single c (ids ++ drawn) t' chain where
  issued token ht := (h.issued token ht).mono (List.subset_append_left _ _)
  live := (h.of_sublist sub).live

theorem liveIn_withSession (t : Tables) (x : Session) (chain : List String) :
    liveIn (withSession t x) chain
      = liveIn t chain ++ if x.refreshToken ∈ chain then [x] else [] := by
  rw [liveIn, withSession, List.filter_append, ← liveIn]
  by_cases h : x.refreshToken ∈ chain
  · rw [if_pos h, List.filter_cons_of_pos (by simpa using h), List.filter_nil]
  · rw [if_neg h, List.filter_cons_of_neg (by simpa using h), List.filter_nil]

theorem Single.withSession (h : Single c ids t chain) (new : Issued c drawn x.refreshToken)
    (apart : ids.Disjoint drawn) :
    Single c (ids ++ drawn) (withSession t x) chain where
  issued token ht := (h.issued token ht).mono (List.subset_append_left _ _)
  live := by
    have other : x.refreshToken ∉ chain := fun hx => (h.issued _ hx).disjoint new apart
    rw [liveIn_withSession, if_neg other, List.append_nil]
    exact h.live

/-- A session opens with the next token of a chain that has none. -/
theorem single_concat (issued : ∀ token ∈ chain, Issued c ids token) (none : liveIn t chain = [])
    (new : Issued c drawn x.refreshToken) (out : x.refreshToken ∉ sessionTokens t) :
    Single c (ids ++ drawn) (withSession t x) (chain ++ [x.refreshToken]) where
  issued token ht := by
    rcases List.mem_append.1 ht with ht | ht
    · exact (issued token ht).mono (List.subset_append_left _ _)
    · exact List.mem_singleton.1 ht ▸ new.mono (List.subset_append_right _ _)
  live := by
    have before : liveIn t (chain ++ [x.refreshToken]) = [] := by
      rw [liveIn, List.filter_eq_nil_iff] at none ⊢
      intro y hy live
      rw [decide_eq_true_eq, List.mem_append, List.mem_singleton] at live
      rcases live with live | same
      · exact none y hy (by simpa using live)
      · exact out (List.mem_map.2 ⟨y, hy, same⟩)
    rw [liveIn_withSession, before, if_pos (by simp)]
    exact Nat.le_refl 1

theorem Single.liveIn_withoutSession (h : Single c ids t chain) {token : String}
    (ht : token ∈ chain) (behind : t.sessionOf? token = some x) :
    liveIn (withoutSession t x.id) chain = [] := by
  obtain ⟨hx, rfl⟩ := mem_of_sessionOf? behind
  have own : x ∈ liveIn t chain := List.mem_filter.2 ⟨hx, by simpa using ht⟩
  rw [liveIn, List.filter_eq_nil_iff]
  intro y hy live
  obtain ⟨hy, ne⟩ := List.mem_filter.1 hy
  have other : y ∈ liveIn t chain := List.mem_filter.2 ⟨hy, live⟩
  obtain ⟨z, hz⟩ : ∃ z, liveIn t chain = [z] :=
    List.length_eq_one_iff.1 (Nat.le_antisymm h.live (List.length_pos_of_mem own))
  rw [hz, List.mem_singleton] at own other
  simp [own, other] at ne

end

theorem Step.single (recorded : Recorded s.tokens ids t) (apart : ids.Disjoint e.drawn)
    (step : Step s t e a t') {cs : List (List String)}
    (h : ∀ chain ∈ cs, Single s.tokens ids t chain) :
    ∀ chain ∈ extend cs (e, a), Single s.tokens (ids ++ e.drawn) t' chain := by
  cases step with
  | refused failed =>
      rw [extend_of_failed failed]
      exact fun chain hc => (h chain hc).kept (.refl _)
  | registered | late | absent | requested =>
      exact fun chain hc => (h chain hc).kept (.refl _)
  | lapsed | closed | allClosed | changed | swept =>
      exact fun chain hc => (h chain hc).kept List.filter_sublist
  | @opened email password client now draws u known new =>
      have issued : Issued s.tokens (Event.login email password client now draws).drawn
          (Service.opened s u client now draws).refreshToken :=
        issued_opened s u client now (by simp [Event.drawn])
      have out := recorded.not_mem_sessionTokens issued apart
      have begun := single_concat (List.forall_mem_nil (Issued s.tokens ids))
        (by simp [liveIn]) issued out
      intro chain hc
      rcases List.mem_append.1 hc with hc | hc
      · exact (h chain hc).withSession issued apart
      · exact List.mem_singleton.1 hc ▸ begun
  | @renewed token client now draws claims u y valid known behind =>
      have issued : Issued s.tokens (Event.refresh token client now draws).drawn
          (Service.opened s u client now draws).refreshToken :=
        issued_opened s u client now (by simp [Event.drawn])
      have out := recorded.not_mem_sessionTokens issued apart
      intro chain hc
      obtain ⟨before, hb, rfl⟩ := List.mem_map.1 hc
      have single := h before hb
      by_cases ht : token ∈ before
      -- the session of the token goes, and it was the only one of its chain
      · rw [if_pos ht]
        exact single_concat single.issued (single.liveIn_withoutSession ht behind) issued
          fun old => out ((sessionTokens_withoutSession t y.id).subset old)
      · rw [if_neg ht]
        exact (single.of_sublist List.filter_sublist).withSession issued apart

end

section
variable (tokens : Token.Config) (hashing : Password.Hasher) {es : List Event}

theorem single_history (h : Distinct es) :
    ∀ chain ∈ chains (history (inMemory tokens hashing) es).log,
      Single tokens (drawnBy es) (history (inMemory tokens hashing) es).tables
        chain := by
  induction es using List.reverseRecOn with
  | nil => exact nofun
  | append_singleton es e ih =>
      have step := (step_history tokens hashing es e).single
        (recorded_history tokens hashing h.init) h.disjoint (ih h.init)
      rw [history_concat] at step ⊢
      rw [drawnBy_concat, chains, List.foldl_append]
      exact step

theorem spent_history {later : List Event} (h : Distinct (es ++ later)) {token : String}
    (spent : Spent tokens (drawnBy es)
      (history (inMemory tokens hashing) es).tables token) :
    Spent tokens (drawnBy (es ++ later))
      (history (inMemory tokens hashing) (es ++ later)).tables token := by
  induction later using List.reverseRecOn with
  | nil => rwa [List.append_nil]
  | append_singleton later e ih =>
      rw [← List.append_assoc] at h ⊢
      rw [drawnBy_concat]
      exact (ih h.init).step h.disjoint (step_history tokens hashing _ e)

/-- Every way of ending a session takes it out of the tables. A token that had a session and
has none is never renewed again, whatever happens before it is tried. In every state one
session at most has a token of a chain. -/
theorem refresh_rotation (h : Distinct es) :
    let s := inMemory tokens hashing
    (∀ before e after, es = before ++ e :: after →
      ∀ x ∈ (history s before).tables.sessions,
        Ends s (history s before).tables x e (answerAfter s before e) →
        (history s (before ++ [e])).tables.sessionOf? x.refreshToken = none) ∧
    (∀ before middle later token client now draws after,
      es = before ++ middle ++ later ++ .refresh token client now draws :: after →
      (history s before).tables.sessionOf? token ≠ none →
      (history s (before ++ middle)).tables.sessionOf? token = none →
      (answerAfter s (before ++ middle ++ later) (.refresh token client now draws)).isOk
        = false) ∧
    ∀ chain ∈ chains (history s es).log, (liveIn (history s es).tables chain).length ≤ 1 := by
  refine ⟨?_, ?_, fun chain hc => (single_history tokens hashing h chain hc).live⟩
  · rintro before e after rfl x hx ends
    rw [List.append_cons] at h
    exact (step_history tokens hashing before e).ends
      (recorded_history tokens hashing h.init.init) h.init.disjoint hx ends
  · rintro before middle later token client now draws after rfl had gone
    have run : Distinct (before ++ middle ++ later) := h.init
    obtain ⟨x, hx⟩ := Option.ne_none_iff_exists'.1 had
    obtain ⟨mem, rfl⟩ := mem_of_sessionOf? hx
    have issued := (recorded_history tokens hashing run.init.init).sessions _
      (List.mem_map_of_mem mem)
    have spent : Spent tokens (drawnBy (before ++ middle))
        (history (inMemory tokens hashing) (before ++ middle)).tables x.refreshToken :=
      ⟨issued.mono (by simp [drawnBy_append]), gone⟩
    have still := (spent_history tokens hashing run spent).gone
    refine Bool.eq_false_iff.2 fun ok => ?_
    obtain ⟨y, hy⟩ := (step_history tokens hashing (before ++ middle ++ later)
      (.refresh x.refreshToken client now draws)).sessionOf?_of_isOk ok
    rw [still] at hy
    cases hy

end

/-- Two logins, two renewals of the first session one after the other, and a third with the token
that was used first: that session was ended by the first renewal, and the token is refused. -/
theorem refresh_rotation_two_logins :
    let client : Account.Client := ⟨"agent", "::1"⟩
    let tokens : Token.Config := { secret := "k" }
    let s := inMemory tokens {}
    let first := tokens.issue .refresh ⟨1⟩ "a@b.cd" .user 10 ⟨3⟩
    let second := tokens.issue .refresh ⟨1⟩ "a@b.cd" .user 20 ⟨6⟩
    let register := Event.register "a@b.cd" "first" none ⟨0, 0⟩
      ⟨⟨0⟩, ⟨0⟩, ⟨1⟩, List.replicate 16 0⟩
    let login := Event.login "a@b.cd" "first" client ⟨10, 0⟩ ⟨⟨2⟩, ⟨3⟩, ⟨4⟩, []⟩
    let renewal := Event.refresh first client ⟨20, 0⟩ ⟨⟨5⟩, ⟨6⟩, ⟨7⟩, []⟩
    let renewal' := Event.refresh second client ⟨30, 0⟩ ⟨⟨8⟩, ⟨9⟩, ⟨10⟩, []⟩
    let login' := Event.login "a@b.cd" "first" client ⟨40, 0⟩ ⟨⟨11⟩, ⟨12⟩, ⟨13⟩, []⟩
    let replay := Event.refresh first client ⟨50, 0⟩ ⟨⟨14⟩, ⟨15⟩, ⟨16⟩, []⟩
    let es := [register, login, renewal, renewal', login', replay]
    Distinct es ∧
      (answerAfter s [register] login).isOk = true ∧
      (answerAfter s [register, login] renewal).isOk = true ∧
      (answerAfter s [register, login, renewal] renewal').isOk = true ∧
      (answerAfter s [register, login, renewal, renewal'] login').isOk = true ∧
      (history s [register, login]).tables.sessionOf? first ≠ none ∧
      (history s [register, login, renewal]).tables.sessionOf? first = none ∧
      (answerAfter s [register, login, renewal, renewal', login'] replay).isOk = false ∧
      ∀ chain ∈ chains (history s es).log, (liveIn (history s es).tables chain).length ≤ 1 := by
  intro client tokens s first second register login renewal renewal' login' replay es
  have distinct : Distinct es := by decide
  obtain ⟨ends, gone, live⟩ := refresh_rotation tokens {} distinct
  obtain ⟨hash, hashed, made⟩ : ∃ hash,
      Password.hash {} (List.replicate 16 0) "first" = .ok hash ∧ (history s [register]).tables
        = ⟨[⟨⟨1⟩, "a@b.cd", hash, .user, ⟨0, 0⟩, ⟨0, 0⟩⟩], [], []⟩ := ⟨_, rfl, rfl⟩
  let u : User := ⟨⟨1⟩, "a@b.cd", hash, .user, ⟨0, 0⟩, ⟨0, 0⟩⟩
  have right : Password.verify "first" u.passwordHash = true :=
    Password.verify_hash hashed (by decide) (by decide)
  have front (x : Session) : (Tables.mk [u] [x] []).sessionOf? x.refreshToken = some x := by
    rw [Tables.sessionOf?, List.find?_cons_of_pos (by simp)]
  have valid {issued now : Int} {id : Uuid} (start : 0 ≤ issued) (inTime : issued ≤ Token.maxTime)
      (since : issued ≤ now)
      (lasting : now ≤ (tokens.claims .refresh ⟨1⟩ "a@b.cd" .user issued id).expires) :=
    tokens.validate_issue .refresh ⟨1⟩ "a@b.cd" .user id start inTime since lasting
  let x := opened s u client ⟨10, 0⟩ ⟨⟨2⟩, ⟨3⟩, ⟨4⟩, []⟩
  let y := opened s u client ⟨20, 0⟩ ⟨⟨5⟩, ⟨6⟩, ⟨7⟩, []⟩
  let z := opened s u client ⟨30, 0⟩ ⟨⟨8⟩, ⟨9⟩, ⟨10⟩, []⟩
  have entered : s.login "a@b.cd" "first" client ⟨10, 0⟩ ⟨⟨2⟩, ⟨3⟩, ⟨4⟩, []⟩ ⟨[u], [], []⟩
      = (.ok _, ⟨[u], [x], []⟩) := login_of_verified rfl right rfl
  have renewed : s.refresh x.refreshToken client ⟨20, 0⟩ ⟨⟨5⟩, ⟨6⟩, ⟨7⟩, []⟩ ⟨[u], [x], []⟩
      = (.ok _, ⟨[u], [y], []⟩) :=
    refresh_of_lasting (valid (by decide) (by decide) (by decide) (by decide)) rfl (front x) rfl
      rfl rfl
  have renewed' : s.refresh y.refreshToken client ⟨30, 0⟩ ⟨⟨8⟩, ⟨9⟩, ⟨10⟩, []⟩ ⟨[u], [y], []⟩
      = (.ok _, ⟨[u], [z], []⟩) :=
    refresh_of_lasting (valid (by decide) (by decide) (by decide) (by decide)) rfl (front y) rfl
      rfl rfl
  have entered' : s.login "a@b.cd" "first" client ⟨40, 0⟩ ⟨⟨11⟩, ⟨12⟩, ⟨13⟩, []⟩ ⟨[u], [z], []⟩
      = (.ok _, _) := login_of_verified rfl right rfl
  obtain ⟨made, firstIn⟩ := history_of_served (e := login) made (pair_apply entered)
  have had : (history s [register, login]).tables.sessionOf? first = some x :=
    (congrArg (Tables.sessionOf? · first) made).trans (front x)
  obtain ⟨made, firstAnew⟩ := history_of_served (e := renewal) made (pair_apply renewed)
  -- `s` by its name, so that no type is computed down to the digest
  have s_eq : inMemory tokens {} = s := rfl
  simp only [s_eq] at ends gone live
  have ended : (history s [register, login, renewal]).tables.sessionOf? first = none := by
    have closes := ends ([register] ++ [login]) renewal [renewal', login', replay] rfl
    rw [firstAnew] at closes
    exact closes x (mem_of_sessionOf? had).1 rfl
  obtain ⟨made, secondAnew⟩ := history_of_served (e := renewal') made (pair_apply renewed')
  obtain ⟨made, secondIn⟩ := history_of_served (e := login') made (pair_apply entered')
  have replayed := gone [register, login] [renewal] [renewal', login'] first client _ _ [] rfl
    (Option.ne_none_iff_exists'.2 ⟨x, had⟩) ended
  exact ⟨distinct, congrArg Answer.isOk firstIn, congrArg Answer.isOk firstAnew,
    congrArg Answer.isOk secondAnew, congrArg Answer.isOk secondIn,
    Option.ne_none_iff_exists'.2 ⟨x, had⟩, ended, replayed, live⟩

end Gatehouse.Service
