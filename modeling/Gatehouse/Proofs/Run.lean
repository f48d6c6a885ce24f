import Gatehouse.Proofs.RowOrder
import Gatehouse.Proofs.Signing
import Gatehouse.Proofs.Step
import Mathlib.Data.List.Induction

/-!
Runs of the service from empty tables. Every token in the tables was issued with an identifier
that some event of the run has drawn, so a token that is issued next is none of them.
-/

namespace Gatehouse.Service

open Account (User Session Reset)
open Store (Tables)

/-- The tables, and what was answered on the way to them. -/
structure History where
  tables : Tables := {}
  log : List (Event × Answer) := []

def History.next (s : Service (StateM Tables)) (h : History) (e : Event) : History :=
  let answer := e.serve s h.tables
  ⟨answer.2, h.log ++ [(e, answer.1)]⟩

/-- Serve events one after the other, with empty tables at first. -/
def history (s : Service (StateM Tables)) (es : List Event) : History :=
  es.foldl (History.next s) {}

/-- The clock does not go back. -/
def Ordered (es : List Event) : Prop := (es.flatMap Event.times).Pairwise (· ≤ ·)

def drawnBy (es : List Event) : List Uuid := es.flatMap Event.drawn

/-- No identifier is drawn twice. -/
def Distinct (es : List Event) : Prop := (drawnBy es).Nodup

instance (es : List Event) : Decidable (Ordered es) :=
  inferInstanceAs (Decidable (List.Pairwise ..))

instance (es : List Event) : Decidable (Distinct es) :=
  inferInstanceAs (Decidable (List.Nodup _))

theorem drawnBy_append (es fs : List Event) : drawnBy (es ++ fs) = drawnBy es ++ drawnBy fs :=
  List.flatMap_append ..

theorem drawnBy_concat (es : List Event) (e : Event) :
    drawnBy (es ++ [e]) = drawnBy es ++ e.drawn := by
  rw [drawnBy_append, drawnBy, drawnBy, List.flatMap_singleton]

theorem Distinct.init {es fs : List Event} (h : Distinct (es ++ fs)) : Distinct es := by
  rw [Distinct, drawnBy_append, List.nodup_append] at h
  exact h.1

theorem Distinct.disjoint {es : List Event} {e : Event} (h : Distinct (es ++ [e])) :
    (drawnBy es).Disjoint e.drawn := by
  rw [Distinct, drawnBy_concat, List.nodup_append] at h
  exact fun id hid hid' => h.2.2 id hid id hid' rfl

theorem Ordered.init {es fs : List Event} (h : Ordered (es ++ fs)) : Ordered es := by
  rw [Ordered, List.flatMap_append] at h
  exact (List.pairwise_append.1 h).1

theorem Ordered.le {before after : List Event} {e e' : Event}
    (h : Ordered (before ++ e :: after)) (he' : e' ∈ after) {x y : Timestamp} (hx : x ∈ e.times)
    (hy : y ∈ e'.times) : x ≤ y := by
  rw [Ordered, List.flatMap_append, List.flatMap_cons] at h
  have rest := (List.pairwise_append.1 h).2.1
  exact (List.pairwise_append.1 rest).2.2 x hx y (List.mem_flatMap.2 ⟨e', he', hy⟩)

section
variable (s : Service (StateM Tables)) (es : List Event) (e : Event)

/-- What an event is answered after others. -/
def answerAfter : Answer := (e.serve s (history s es).tables).1

theorem history_concat : history s (es ++ [e]) =
    ⟨(e.serve s (history s es).tables).2, (history s es).log ++ [(e, answerAfter s es e)]⟩ := by
  simp [history, History.next, answerAfter]

variable {s es e} in
theorem history_of_served {t t' : Tables} {a : Answer} (before : (history s es).tables = t)
    (served : e.serve s t = (a, t')) :
    (history s (es ++ [e])).tables = t' ∧ answerAfter s es e = a := by
  rw [history_concat, answerAfter, before, served]
  exact ⟨rfl, rfl⟩

/-- What was logged was answered after the events before it. -/
theorem eq_append_of_mem_log {x : Event × Answer} (h : x ∈ (history s es).log) :
    ∃ before after, es = before ++ x.1 :: after ∧ x.2 = answerAfter s before x.1 := by
  induction es using List.reverseRecOn with
  | nil => cases h
  | append_singleton es e ih =>
      rw [history_concat, List.mem_append] at h
      rcases h with h | h
      · obtain ⟨before, after, rfl, answer⟩ := ih h
        exact ⟨before, after ++ [e], by simp, answer⟩
      · rw [List.mem_singleton] at h
        subst h
        exact ⟨es, [], rfl, rfl⟩

end

theorem step_history (tokens : Token.Config) (hashing : Password.Hasher) (es : List Event)
    (e : Event) :
    Step (inMemory tokens hashing) (history (inMemory tokens hashing) es).tables e
      (answerAfter (inMemory tokens hashing) es e)
      (history (inMemory tokens hashing) (es ++ [e])).tables := by
  rw [history_concat]
  exact step_serve tokens hashing _ e

/-- The answers to events, and the state behind them. -/
structure Logged (σ : Type) where
  state : σ
  log : List (Event × Answer) := []

def Logged.next {σ : Type} (s : Service (StateM σ)) (h : Logged σ) (e : Event) : Logged σ :=
  let answer := e.serve s h.state
  ⟨answer.2, h.log ++ [(e, answer.1)]⟩

/-- Serve events one after the other. -/
def logged {σ : Type} (s : Service (StateM σ)) (start : σ) (es : List Event) : Logged σ :=
  es.foldl (Logged.next s) ⟨start, []⟩

section
variable {σ : Type} (s : Service (StateM σ)) (start : σ) (es : List Event) (e : Event)

theorem logged_concat : logged s start (es ++ [e]) =
    ⟨(e.serve s (logged s start es).state).2,
      (logged s start es).log ++ [(e, (e.serve s (logged s start es).state).1)]⟩ := by
  simp [logged, Logged.next]

theorem events_logged : (logged s start es).log.map Prod.fst = es := by
  induction es using List.reverseRecOn with
  | nil => rfl
  | append_singleton es e ih => rw [logged_concat, List.map_append, ih, List.map_singleton]

end

/-- A token with one of the identifiers. -/
def Issued (c : Token.Config) (ids : List Uuid) (token : String) : Prop :=
  ∃ kind userId email role now, ∃ id ∈ ids, token = c.issue kind userId email role now id

theorem Issued.mono {c : Token.Config} {ids ids' : List Uuid} {token : String}
    (h : Issued c ids token) (sub : ids ⊆ ids') : Issued c ids' token := by
  obtain ⟨kind, userId, email, role, now, id, hid, rfl⟩ := h
  exact ⟨kind, userId, email, role, now, id, sub hid, rfl⟩

theorem Issued.disjoint {c : Token.Config} {ids ids' : List Uuid} {token : String}
    (h : Issued c ids token) (h' : Issued c ids' token) : ¬ ids.Disjoint ids' := by
  obtain ⟨kind, userId, email, role, now, id, hid, rfl⟩ := h
  obtain ⟨kind', userId', email', role', now', id', hid', same⟩ := h'
  intro apart
  exact apart hid (Token.Config.id_eq_of_issue_eq same ▸ hid')

/-- Tokens of a table are left out, or left out and one more is issued with a given
identifier. -/
def Turnover (c : Token.Config) (ids : List Uuid) (old new : List String) : Prop :=
  new.Sublist old ∨
    ∃ token, Issued c ids token ∧ ∃ kept, kept.Sublist old ∧ new = kept ++ [token]

section
variable {c : Token.Config} {ids drawn : List Uuid} {old new : List String}

theorem Turnover.mem (h : Turnover c drawn old new) {token : String} (ht : token ∈ new) :
    token ∈ old ∨ Issued c drawn token := by
  rcases h with h | ⟨last, issued, kept, sub, rfl⟩
  · exact .inl (h.subset ht)
  · rcases List.mem_append.1 ht with ht | ht
    · exact .inl (sub.subset ht)
    · exact .inr (List.mem_singleton.1 ht ▸ issued)

theorem Turnover.issued (h : Turnover c drawn old new) (all : ∀ token ∈ old, Issued c ids token) :
    ∀ token ∈ new, Issued c (ids ++ drawn) token := by
  intro token ht
  rcases h.mem ht with ht | issued
  · exact (all token ht).mono (List.subset_append_left _ _)
  · exact issued.mono (List.subset_append_right _ _)

theorem Turnover.nodup_of_new (h : Turnover c drawn old new)
    (unmet : ∀ token ∈ old, ¬ Issued c drawn token) (unique : old.Nodup) : new.Nodup := by
  rcases h with h | ⟨last, issued, kept, sub, rfl⟩
  · exact unique.sublist h
  · refine List.nodup_append.2 ⟨unique.sublist sub, by simp, ?_⟩
    intro token ht other ho same
    rw [List.mem_singleton.1 ho] at same
    exact unmet token (sub.subset ht) (same ▸ issued)

theorem Turnover.nodup (h : Turnover c drawn old new) (all : ∀ token ∈ old, Issued c ids token)
    (apart : ids.Disjoint drawn) (unique : old.Nodup) : new.Nodup :=
  h.nodup_of_new (fun token ht issued => (all token ht).disjoint issued apart) unique

end

theorem issued_opened (s : Service (StateM Tables)) (u : User) (client : Account.Client)
    (now : Timestamp) {draws : Draws} {ids : List Uuid} (drawn : draws.secondToken ∈ ids) :
    Issued s.tokens ids (opened s u client now draws).refreshToken :=
  ⟨.refresh, u.id, u.email, u.role, now.seconds, draws.secondToken, drawn, rfl⟩

theorem issued_resetToken (s : Service (StateM Tables)) (u : User) (now : Timestamp)
    {draws : Draws} {ids : List Uuid} (drawn : draws.firstToken ∈ ids) :
    Issued s.tokens ids (resetToken s u now draws) :=
  ⟨.reset, u.id, u.email, .user, now.seconds, draws.firstToken, drawn, rfl⟩

def sessionTokens (t : Tables) : List String := t.sessions.map (·.refreshToken)

def resetTokens (t : Tables) : List String := t.resets.map (·.token)

section
variable {t : Tables} {token : String}

theorem sessionOf?_eq_none_iff :
    t.sessionOf? token = none ↔ token ∉ sessionTokens t := by
  simp [Tables.sessionOf?, sessionTokens]

theorem mem_of_sessionOf? {x : Session} (h : t.sessionOf? token = some x) :
    x ∈ t.sessions ∧ x.refreshToken = token :=
  ⟨List.mem_of_find?_eq_some h, by simpa using List.find?_some h⟩

theorem resetOf?_eq_none_iff :
    t.resetOf? token = none ↔ token ∉ resetTokens t := by
  simp [Tables.resetOf?, resetTokens]

theorem mem_of_resetOf? {r : Reset} (h : t.resetOf? token = some r) :
    r ∈ t.resets ∧ r.token = token :=
  ⟨List.mem_of_find?_eq_some h, by simpa using List.find?_some h⟩

end

section
variable {s : Service (StateM Tables)} {t t' : Tables} {e : Event} {a : Answer}

theorem Turnover.refl (c : Token.Config) (ids : List Uuid) (tokens : List String) :
    Turnover c ids tokens tokens := .inl (.refl _)

theorem sessionTokens_withoutSession (t : Tables) (id : Uuid) :
    (sessionTokens (withoutSession t id)).Sublist (sessionTokens t) :=
  List.filter_sublist.map _

theorem map_resets_withDigest {α : Type} (f : Reset → α)
    (hf : ∀ (r : Reset) used, f { r with usedAt := used } = f r) (t : Tables) (r : Reset)
    (u : User) (hash : String) (at_ : Timestamp) :
    (withDigest t r u hash at_).resets.map f = t.resets.map f :=
  Tables.map_stampReset f hf t r.id at_

/-- A step leaves tokens of sessions, and adds one at most that it issues. -/
theorem Step.turnover_sessions (step : Step s t e a t') :
    Turnover s.tokens e.drawn (sessionTokens t) (sessionTokens t') := by
  cases step with
  | refused | registered | late | absent | requested => exact .refl ..
  | lapsed | closed => exact .inl (sessionTokens_withoutSession t _)
  | allClosed | changed | swept => exact .inl (List.filter_sublist.map _)
  | @opened email password client now draws u known new =>
      refine .inr ⟨_, issued_opened s u client now ?_, sessionTokens t, .refl _,
        List.map_append ..⟩
      simp [Event.drawn]
  | @renewed token client now draws claims u x valid known behind own lasting new =>
      refine .inr ⟨_, issued_opened s u client now ?_, _, sessionTokens_withoutSession t x.id,
        List.map_append ..⟩
      simp [Event.drawn]

theorem Step.turnover_resets (step : Step s t e a t') :
    Turnover s.tokens e.drawn (resetTokens t) (resetTokens t') := by
  cases step with
  | refused | registered | late | absent | lapsed | closed | allClosed | opened | renewed =>
      exact .refl ..
  | @requested email now draws u known new unknown =>
      refine .inr ⟨_, issued_resetToken s u now ?_, _, .refl _, List.map_append ..⟩
      simp [Event.drawn]
  | @changed token password now later salt claims u r q hash =>
      have same : resetTokens (withDigest t r u hash later) = resetTokens t :=
        map_resets_withDigest (·.token) (fun _ _ => rfl) ..
      exact .inl (same ▸ .refl _)
  | swept => exact .inl (List.filter_sublist.map _)

theorem Step.nodup_resets (step : Step s t e a t') (h : (t.resets.map (·.id)).Nodup) :
    (t'.resets.map (·.id)).Nodup := by
  cases step with
  | refused | registered | late | absent | lapsed | closed | allClosed | opened | renewed =>
      exact h
  | @requested email now draws u known new unknown =>
      exact nodup_concat h new
  | @changed token password now later salt claims u r q hash =>
      have same : (withDigest t r u hash later).resets.map (·.id) = t.resets.map (·.id) :=
        map_resets_withDigest (·.id) (fun _ _ => rfl) ..
      exact same.symm ▸ h
  | swept => exact h.sublist (List.filter_sublist.map _)

/-- Every token in the tables was issued with one of the identifiers, and neither tokens nor
resets stand there twice. -/
structure Recorded (c : Token.Config) (ids : List Uuid) (t : Tables) : Prop where
  sessions : ∀ token ∈ sessionTokens t, Issued c ids token
  resets : ∀ token ∈ resetTokens t, Issued c ids token
  sessionTokens : (sessionTokens t).Nodup
  resetTokens : (resetTokens t).Nodup
  resetIds : (t.resets.map (·.id)).Nodup

theorem Recorded.step {ids : List Uuid} (h : Recorded s.tokens ids t) (step : Step s t e a t')
    (apart : ids.Disjoint e.drawn) : Recorded s.tokens (ids ++ e.drawn) t' where
  sessions := step.turnover_sessions.issued h.sessions
  resets := step.turnover_resets.issued h.resets
  sessionTokens := step.turnover_sessions.nodup h.sessions apart h.sessionTokens
  resetTokens := step.turnover_resets.nodup h.resets apart h.resetTokens
  resetIds := step.nodup_resets h.resetIds

end

theorem recorded_history (tokens : Token.Config) (hashing : Password.Hasher) {es : List Event}
    (h : Distinct es) :
    Recorded tokens (drawnBy es) (history (inMemory tokens hashing) es).tables := by
  induction es using List.reverseRecOn with
  | nil => exact ⟨nofun, nofun, .nil, .nil, .nil⟩
  | append_singleton es e ih =>
      rw [drawnBy_concat]
      exact (ih h.init).step (step_history tokens hashing es e) h.disjoint

end Gatehouse.Service
