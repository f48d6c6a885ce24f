import Gatehouse.Proofs.Issuing
import Gatehouse.Proofs.Lookup
import Gatehouse.Proofs.Requests
import Gatehouse.Proofs.SingleUse

/-!
Whose the rows are. In every state that a run reaches, sessions and resets belong to users that
are there, and their tokens name them: so whoever presents a token is told apart by it, and a
row that is added is never in the way of another.
-/

namespace Gatehouse.Token

section
variable {config : Config} {kind asked : Kind} {userId : Uuid} {token : String}

/-- A token of this issuer, for a user. -/
def Config.IsTokenOf (config : Config) (kind : Kind) (userId : Uuid) (token : String) : Prop :=
  IsSigned config.secret token ∧ ∃ c, Carries token c ∧ c.kind = kind ∧ c.userId = userId

theorem Config.isTokenOf_issue (email : String) (role : Account.Role) (id : Uuid) {s : Int}
    (low : Bounds.minSigned ≤ s) (high : s ≤ maxTime) :
    config.IsTokenOf kind userId (config.issue kind userId email role s id) := by
  have range := config.inRange_claims kind userId email role id low high
  exact ⟨isSigned_sign config.secret range, _, carries_sign config.secret range, rfl, rfl⟩

theorem Config.IsTokenOf.userId_eq (h : config.IsTokenOf kind userId token) {now : Int}
    {c : Claims} (valid : config.validate asked now token = .ok c) : c.userId = userId := by
  obtain ⟨signed, d, carried, -, rfl⟩ := h
  obtain ⟨-, read, -⟩ := decode_eq_ok_iff.1 (validate_eq_ok_iff.1 valid).1
  have same := read_eq_some_iff.2 ⟨signed, read⟩
  rw [read_eq_some_iff.2 ⟨signed, carried⟩, Option.some.injEq] at same
  rw [same]

end

end Gatehouse.Token

namespace Gatehouse.Service

open Account (User Session Reset)
open Store (Tables Watched)

/-- The times are numbers of 64 bits, in seconds. -/
def Representable (es : List Event) : Prop :=
  ∀ x ∈ es.flatMap Event.times, Bounds.minSigned ≤ x.seconds ∧ x.seconds ≤ Bounds.maxSigned

instance (es : List Event) : Decidable (Representable es) :=
  inferInstanceAs (Decidable (∀ x ∈ _, _))

theorem Representable.init {es fs : List Event} (h : Representable (es ++ fs)) :
    Representable es := by
  intro x hx
  rw [Representable, List.flatMap_append] at h
  exact h x (List.mem_append_left _ hx)

theorem Representable.last {es : List Event} {e : Event} (h : Representable (es ++ [e]))
    {x : Timestamp} (hx : x ∈ e.times) :
    Bounds.minSigned ≤ x.seconds ∧ x.seconds ≤ Bounds.maxSigned := by
  rw [Representable, List.flatMap_append, List.flatMap_singleton] at h
  exact h x (List.mem_append_right _ hx)

theorem user?_isSome_iff {t : Tables} {id : Uuid} :
    (t.user? id).isSome = true ↔ ∃ u ∈ t.users, u.id = id := by
  rw [Tables.user?, List.find?_isSome]
  simp only [decide_eq_true_eq]

theorem mem_of_user? {t : Tables} {id : Uuid} {u : User} (h : t.user? id = some u) :
    u ∈ t.users ∧ u.id = id :=
  ⟨List.mem_of_find?_eq_some h, by simpa using List.find?_some h⟩

theorem mem_of_userOf? {t : Tables} {email : String} {u : User} (h : t.userOf? email = some u) :
    u ∈ t.users ∧ u.email = email :=
  ⟨List.mem_of_find?_eq_some h, by simpa using List.find?_some h⟩

section
variable {s : Service (StateM Tables)} {t t' : Tables} {e : Event} {a : Answer}

/-- A change of a digest keeps identifiers and addresses. -/
theorem map_users_withDigest {α : Type} (f : User → α)
    (hf : ∀ (u : User) hash time, f { u with passwordHash := hash, updatedAt := time } = f u)
    (t : Tables) (r : Reset) (u : User) (hash : String) (at_ : Timestamp) :
    (withDigest t r u hash at_).users.map f = t.users.map f :=
  map_changed (fun v => hf v _ _) t.users

theorem Step.user_of_mem (step : Step s t e a t') {u : User} (hu : u ∈ t'.users) :
    (∃ v ∈ t.users, v.id = u.id) ∨ u.id ∈ e.drawn := by
  cases step with
  | refused | late | absent | lapsed | closed | allClosed | opened | renewed | requested
  | swept => exact .inl ⟨u, hu, rfl⟩
  | registered id =>
      rcases List.mem_append.1 hu with hu | hu
      · exact .inl ⟨u, hu, rfl⟩
      · rw [List.mem_singleton.1 hu, id]
        exact .inr List.mem_cons_self
  | changed =>
      obtain ⟨v, hv, rfl⟩ := List.mem_map.1 hu
      refine .inl ⟨v, hv, ?_⟩
      split <;> rfl

/-- A session that was not there is opened for a user. -/
theorem Step.session_of_mem (step : Step s t e a t') {x : Session} (hx : x ∈ t'.sessions) :
    x ∈ t.sessions ∨ ∃ u client now draws, x = Service.opened s u client now draws ∧
      u ∈ t.users ∧ now ∈ e.times ∧ draws.record ∈ e.drawn := by
  cases step with
  | refused | registered | late | absent | requested => exact .inl hx
  | lapsed | closed | allClosed | changed | swept => exact .inl (List.mem_of_mem_filter hx)
  | @opened email password client now draws u known =>
      rcases List.mem_append.1 hx with hx | hx
      · exact .inl hx
      · have hu := (mem_of_userOf? known).1
        refine .inr ⟨u, client, now, draws, List.mem_singleton.1 hx, hu, ?_, ?_⟩
        · exact List.mem_cons_self
        · simp [Event.drawn]
  | @renewed token client now draws claims u y valid known =>
      rcases List.mem_append.1 hx with hx | hx
      · exact .inl (List.mem_of_mem_filter hx)
      · have hu := (mem_of_user? known).1
        refine .inr ⟨u, client, now, draws, List.mem_singleton.1 hx, hu, ?_, ?_⟩
        · exact List.mem_cons_self
        · simp [Event.drawn]

/-- A reset that was not there is made for a user; the others change by their use at most. -/
theorem Step.reset_of_mem (step : Step s t e a t') {r : Reset} (hr : r ∈ t'.resets) :
    (∃ q ∈ t.resets, q.id = r.id ∧ q.userId = r.userId ∧ q.token = r.token) ∨
    ∃ u now draws, r = s.resetFor u (resetToken s u now draws) now draws ∧ u ∈ t.users ∧
      now ∈ e.times ∧ draws.record ∈ e.drawn := by
  cases step with
  | refused | registered | late | absent | lapsed | closed | allClosed | opened | renewed =>
      exact .inl ⟨r, hr, rfl, rfl, rfl⟩
  | @requested email now draws u known =>
      rcases List.mem_append.1 hr with hr | hr
      · exact .inl ⟨r, hr, rfl, rfl, rfl⟩
      · refine .inr ⟨u, now, draws, List.mem_singleton.1 hr, (mem_of_userOf? known).1, ?_, ?_⟩
        · exact List.mem_cons_self
        · simp [Event.drawn]
  | changed =>
      obtain ⟨q, hq, rfl⟩ := List.mem_map.1 hr
      refine .inl ⟨q, hq, ?_⟩
      split <;> exact ⟨rfl, rfl, rfl⟩
  | swept => exact .inl ⟨r, List.mem_of_mem_filter hr, rfl, rfl, rfl⟩

theorem Step.nodup_emails (step : Step s t e a t') (h : (t.users.map (·.email)).Nodup) :
    (t'.users.map (·.email)).Nodup := by
  cases step with
  | refused | late | absent | lapsed | closed | allClosed | opened | renewed | requested
  | swept => exact h
  | @registered email password role now draws u id address new alone =>
      rw [← address] at alone
      exact nodup_concat h alone
  | @changed token password now later salt claims u r q hash =>
      have same : (withDigest t r u hash later).users.map (·.email) = t.users.map (·.email) :=
        map_users_withDigest (·.email) (fun _ _ _ => rfl) ..
      exact same.symm ▸ h

end

/-- No two users share an address, and every session and every reset is of a user that is
there, whom its token names. -/
structure Owned (c : Token.Config) (t : Tables) : Prop where
  emails : (t.users.map (·.email)).Nodup
  sessions : ∀ x ∈ t.sessions, (∃ u ∈ t.users, u.id = x.userId) ∧
    c.IsTokenOf .refresh x.userId x.refreshToken
  resets : ∀ r ∈ t.resets, (∃ u ∈ t.users, u.id = r.userId) ∧ c.IsTokenOf .reset r.userId r.token

/-- The identifiers of the rows are among given ones. -/
structure Drawn (ids : List Uuid) (t : Tables) : Prop where
  users : ∀ u ∈ t.users, u.id ∈ ids
  sessions : ∀ x ∈ t.sessions, x.id ∈ ids
  resets : ∀ r ∈ t.resets, r.id ∈ ids

section
variable {s : Service (StateM Tables)} {t t' : Tables} {e : Event} {a : Answer}
  {ids : List Uuid}

theorem Owned.step (h : Owned s.tokens t) (step : Step s t e a t')
    (times : ∀ x ∈ e.times, Bounds.minSigned ≤ x.seconds ∧ x.seconds ≤ Bounds.maxSigned) :
    Owned s.tokens t' := by
  have stays {id : Uuid} (known : ∃ u ∈ t.users, u.id = id) : ∃ u ∈ t'.users, u.id = id :=
    user?_isSome_iff.1 (step.user?_isSome (user?_isSome_iff.2 known))
  refine ⟨step.nodup_emails h.emails, ?_, ?_⟩
  · intro x hx
    rcases step.session_of_mem hx with hx | ⟨u, client, now, draws, rfl, hu, hnow, -⟩
    · exact ⟨stays (h.sessions x hx).1, (h.sessions x hx).2⟩
    · obtain ⟨low, high⟩ := times now hnow
      exact ⟨stays ⟨u, hu, rfl⟩, Token.Config.isTokenOf_issue _ _ _ low high⟩
  · intro r hr
    rcases step.reset_of_mem hr with ⟨q, hq, -, owner, token⟩ | ⟨u, now, draws, rfl, hu, hnow, -⟩
    · rw [← owner, ← token]
      exact ⟨stays (h.resets q hq).1, (h.resets q hq).2⟩
    · obtain ⟨low, high⟩ := times now hnow
      exact ⟨stays ⟨u, hu, rfl⟩, Token.Config.isTokenOf_issue _ _ _ low high⟩

theorem Drawn.step (h : Drawn ids t) (step : Step s t e a t') : Drawn (ids ++ e.drawn) t' := by
  refine ⟨?_, ?_, ?_⟩
  · intro u hu
    rcases step.user_of_mem hu with ⟨v, hv, same⟩ | drawn
    · exact List.mem_append_left _ (same ▸ h.users v hv)
    · exact List.mem_append_right _ drawn
  · intro x hx
    rcases step.session_of_mem hx with hx | ⟨u, client, now, draws, rfl, -, -, drawn⟩
    · exact List.mem_append_left _ (h.sessions x hx)
    · exact List.mem_append_right _ drawn
  · intro r hr
    rcases step.reset_of_mem hr with ⟨q, hq, same, -, -⟩ | ⟨u, now, draws, rfl, -, -, drawn⟩
    · exact List.mem_append_left _ (same ▸ h.resets q hq)
    · exact List.mem_append_right _ drawn

end

section
variable (tokens : Token.Config) (hashing : Password.Hasher) {es : List Event}

theorem owned_history (representable : Representable es) :
    Owned tokens (history (inMemory tokens hashing) es).tables := by
  induction es using List.reverseRecOn with
  | nil => exact ⟨.nil, nofun, nofun⟩
  | append_singleton es e ih =>
      exact (ih representable.init).step (step_history tokens hashing es e)
        fun x hx => representable.last hx

theorem drawn_history (es : List Event) :
    Drawn (drawnBy es) (history (inMemory tokens hashing) es).tables := by
  induction es using List.reverseRecOn with
  | nil => exact ⟨nofun, nofun, nofun⟩
  | append_singleton es e ih =>
      rw [drawnBy_concat]
      exact ih.step (step_history tokens hashing es e)

/-- What is drawn next is the identifier of no row. -/
theorem fresh_history {e : Event} (distinct : Distinct (es ++ [e])) :
    Fresh tokens e.drawn (history (inMemory tokens hashing) es).tables := by
  have drawn := drawn_history tokens hashing es
  have recorded := recorded_history tokens hashing distinct.init
  have new {id : Uuid} (hid : id ∈ e.drawn) : id ∉ drawnBy es := fun h => distinct.disjoint h hid
  refine ⟨?_, ?_, ?_, ?_⟩
  · intro id hid
    rw [Tables.user?, List.find?_eq_none]
    intro u hu same
    exact new hid (of_decide_eq_true same ▸ drawn.users u hu)
  · intro id hid
    rw [Tables.session?, List.find?_eq_none]
    intro x hx same
    exact new hid (of_decide_eq_true same ▸ drawn.sessions x hx)
  · intro id hid
    rw [Tables.reset?, List.find?_eq_none]
    intro r hr same
    exact new hid (of_decide_eq_true same ▸ drawn.resets r hr)
  · intro token issued
    rw [resetOf?_eq_none_iff]
    intro ht
    exact (recorded.resets token ht).disjoint issued distinct.disjoint

/-- In every state that a run reaches, addresses and tokens are those of one row each, and the
rows belong to whom their tokens name. So each is found by its address or token; whoever
presents a token that is accepted is the owner of the row behind it; and no row that is added
next is in conflict with another. -/
theorem rows_owned (distinct : Distinct es) (representable : Representable es) :
    let t := (history (inMemory tokens hashing) es).tables
    Owned tokens t ∧ (sessionTokens t).Nodup ∧ (resetTokens t).Nodup ∧
    (∀ u ∈ t.users, t.userOf? u.email = some u) ∧
    (∀ x ∈ t.sessions, t.sessionOf? x.refreshToken = some x) ∧
    (∀ r ∈ t.resets, t.resetOf? r.token = some r) ∧
    (∀ kind now token claims u, tokens.validate kind now token = .ok claims →
      t.user? claims.userId = some u →
      (∀ x, t.sessionOf? token = some x → x.userId = u.id) ∧
      (∀ r, t.resetOf? token = some r → r.userId = u.id)) ∧
    ∀ e, Distinct (es ++ [e]) → ∀ call ∈ requests tokens hashing t e,
      call.failure ≠ some .conflict := by
  intro t
  have owned : Owned tokens t := owned_history tokens hashing representable
  have recorded : Recorded tokens (drawnBy es) t := recorded_history tokens hashing distinct
  refine ⟨owned, recorded.sessionTokens, recorded.resetTokens, ?_, ?_, ?_, ?_, ?_⟩
  · intro u hu
    exact find?_key owned.emails hu
  · intro x hx
    exact find?_key recorded.sessionTokens hx
  · intro r hr
    exact find?_key recorded.resetTokens hr
  · intro kind now token claims u valid known
    obtain ⟨-, id⟩ := mem_of_user? known
    refine ⟨?_, ?_⟩
    · intro x behind
      obtain ⟨hx, rfl⟩ := mem_of_sessionOf? behind
      rw [id, (owned.sessions x hx).2.userId_eq valid]
    · intro r behind
      obtain ⟨hr, rfl⟩ := mem_of_resetOf? behind
      rw [id, (owned.resets r hr).2.userId_eq valid]
  · intro e distinct'
    have quiet : Quiet { tables := t } := fun call hcall => absurd hcall List.not_mem_nil
    exact serve_smooth (fresh_history tokens hashing distinct') _ rfl quiet

end

/-- A user with a reset, who asks for another. -/
theorem rows_owned_sampleRun :
    let t := (history (inMemory sampleTokens {}) sampleRun).tables
    let again := Event.requestReset "a@b.cd" ⟨20, 0⟩ ⟨⟨4⟩, ⟨5⟩, ⟨6⟩, []⟩
    Distinct (sampleRun ++ [again]) ∧ Representable sampleRun ∧
      t.resetOf? sampleToken = some sampleReset ∧
      sampleTokens.IsTokenOf .reset sampleUser sampleToken ∧
      ∀ call ∈ requests sampleTokens {} t again, call.failure ≠ some .conflict := by
  intro t again
  have distinct : Distinct (sampleRun ++ [again]) := by decide
  have representable : Representable sampleRun := by decide
  obtain ⟨u, -, tables⟩ := tables_sampleRun
  have mem : sampleReset ∈ t.resets := by
    change sampleReset ∈ (history _ _).tables.resets
    rw [tables]
    exact List.mem_cons_self
  obtain ⟨owned, -, -, -, -, found, -, quiet⟩ :=
    rows_owned sampleTokens {} distinct.init representable
  have token : sampleReset.token = sampleToken := rfl
  have owner : sampleReset.userId = sampleUser := rfl
  have row := found sampleReset mem
  have theirs := (owned.resets sampleReset mem).2
  rw [token] at row theirs
  rw [owner] at theirs
  exact ⟨distinct, representable, row, theirs, quiet again distinct⟩

end Gatehouse.Service
