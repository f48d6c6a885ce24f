import Gatehouse.Proofs.Run
import Gatehouse.Store.Outage

/-!
The service over tables whose requests are noted and may be lost: what one request does, which
requests an event makes, and why none of them is in conflict with a row if what is drawn is new.
-/

namespace Gatehouse.Store

section
variable {faults : Nat → Option Outage} {α : Type} {op : Op α} {w : Watched}

theorem run_of_lost {o : Outage} (h : faults w.calls.length = some o) :
    (unreliable faults).run op w
      = (.error o.error, ⟨w.tables, w.calls ++ [⟨op.method, some o.error⟩]⟩) := by
  simp only [unreliable, noted, intercept, bind_apply, pure_apply]
  rw [get_apply]
  simp only [h]
  rfl

theorem run_of_reached (h : faults w.calls.length = none) :
    (unreliable faults).run op w = ((Tables.run op w.tables).1,
      ⟨(Tables.run op w.tables).2,
        w.calls ++ [⟨op.method, failureOf (Tables.run op w.tables).1⟩]⟩) := by
  simp only [unreliable, noted, intercept, bind_apply, pure_apply]
  rw [get_apply]
  simp only [h]
  rfl

end

end Gatehouse.Store

namespace Gatehouse.Service

open Account (User Session Reset)
open Store (Tables Watched Outage Call)

/-- The service over tables in memory, of which requests may be lost. -/
def overUnreliable (tokens : Token.Config) (hashing : Password.Hasher)
    (faults : Nat → Option Outage) : Service (StateM Watched) where
  store := Store.unreliable faults
  tokens := tokens
  hashing := hashing
  deliver _ _ := pure ()

/-- The requests that an event makes of tables, none of which is lost. -/
def requests (tokens : Token.Config) (hashing : Password.Hasher) (t : Tables) (e : Event) :
    List Call :=
  (e.serve (overUnreliable tokens hashing fun _ => none) { tables := t }).2.calls

/-- No request was answered by a conflict. -/
def Quiet (w : Watched) : Prop := ∀ call ∈ w.calls, call.failure ≠ some .conflict

/-- From given tables, no request is answered by a conflict. -/
def Smooth {α : Type} (t : Tables) (x : StateM Watched α) : Prop :=
  ∀ w : Watched, w.tables = t → Quiet w → Quiet (x w).2

section
variable {α β : Type} {t : Tables}

theorem Smooth.pure (a : α) : Smooth t (pure a) := fun _ _ quiet => quiet

theorem Smooth.request {op : Store.Op α} {k : Except Store.Error α → StateM Watched β}
    (answer : (Tables.run op t).1 ≠ .error .conflict)
    (rest : Smooth (Tables.run op t).2 (k (Tables.run op t).1)) :
    Smooth t ((Store.unreliable fun _ => none).run op >>= k) := by
  rintro w rfl quiet
  have served : ((Store.unreliable fun _ => none).run op >>= k) w
      = k (Tables.run op w.tables).1 ⟨(Tables.run op w.tables).2,
        w.calls ++ [⟨op.method, Store.failureOf (Tables.run op w.tables).1⟩]⟩ := by
    rw [bind_apply, Store.run_of_reached rfl]
  rw [served]
  refine rest _ rfl ?_
  intro call hcall
  rcases List.mem_append.1 hcall with hcall | hcall
  · exact quiet call hcall
  · rw [List.mem_singleton.1 hcall]
    intro conflict
    cases answered : (Tables.run op w.tables).1 with
    | ok a => simp [answered, Store.failureOf] at conflict
    | error e =>
        simp only [answered, Store.failureOf, Option.some.injEq] at conflict
        exact answer (conflict ▸ answered)

theorem Smooth.map {x : StateM Watched α} (h : Smooth t x) (f : α → β) :
    Smooth t (do return f (← x)) := fun w same quiet => h w same quiet

theorem ok_ne_conflict (a : α) : (.ok a : Except Store.Error α) ≠ .error .conflict := by simp

theorem notFound_ne_conflict : (.error .notFound : Except Store.Error α) ≠ .error .conflict := by
  simp

theorem orNotFound_ne_conflict (row : Option α) (t : Tables) :
    (Tables.orNotFound row t).1 ≠ .error .conflict := by
  cases row with
  | none => exact notFound_ne_conflict
  | some a => exact ok_ne_conflict a

theorem createUser_ne_conflict {u : User} (new : t.user? u.id = none)
    (alone : t.userOf? u.email = none) : (Tables.createUser u t).1 ≠ .error .conflict := by
  rw [Tables.createUser, new, alone]
  exact ok_ne_conflict ()

theorem createSession_ne_conflict {x : Session} (new : t.session? x.id = none) :
    (Tables.createSession x t).1 ≠ .error .conflict := by
  rw [Tables.createSession, new]
  exact ok_ne_conflict ()

theorem rotateSession_ne_conflict {x : Session} (new : t.session? x.id = none) (old : Uuid) :
    (Tables.rotateSession old x t).1 ≠ .error .conflict := by
  rw [Tables.rotateSession, new, Option.isSome_none, Bool.and_false]
  split
  · exact notFound_ne_conflict
  · exact ok_ne_conflict ()

theorem createReset_ne_conflict {r : Reset} (new : t.reset? r.id = none)
    (unknown : t.resetOf? r.token = none) : (Tables.createReset r t).1 ≠ .error .conflict := by
  rw [Tables.createReset, new, unknown]
  exact ok_ne_conflict ()

theorem deleteSession_ne_conflict (id : Uuid) (t : Tables) :
    (Tables.deleteSession id t).1 ≠ .error .conflict := by
  rw [Tables.deleteSession]
  split
  · exact notFound_ne_conflict
  · exact ok_ne_conflict ()

theorem consumeReset_ne_conflict (id : Uuid) (u : User) (at_ : Timestamp) (t : Tables) :
    (Tables.consumeReset id u at_ t).1 ≠ .error .conflict := by
  rw [Tables.consumeReset]
  split
  · split
    · exact ok_ne_conflict ()
    · exact notFound_ne_conflict
  · exact notFound_ne_conflict

end

/-- Identifiers are those of no row, and no reset has a token that is issued with one. -/
structure Fresh (c : Token.Config) (ids : List Uuid) (t : Tables) : Prop where
  users : ∀ id ∈ ids, t.user? id = none
  sessions : ∀ id ∈ ids, t.session? id = none
  resets : ∀ id ∈ ids, t.reset? id = none
  tokens : ∀ token, Issued c ids token → t.resetOf? token = none

section
variable {tokens : Token.Config} {hashing : Password.Hasher} {t : Tables} {draws : Draws}

theorem register_smooth (email password : String) (role : Option Account.Role)
    (now : Timestamp) (new : t.user? draws.record = none) :
    Smooth t ((overUnreliable tokens hashing fun _ => none).register email password role now
      draws) := by
  refine .request (orNotFound_ne_conflict _ _) ?_
  simp only [Tables.run]
  cases known : t.userOf? email with
  | some u => exact .pure _
  | none =>
      simp only [Tables.orNotFound]
      split
      · exact .pure _
      · refine .request ?_ ?_
        · exact createUser_ne_conflict new known
        · split <;> exact .pure _

theorem login_smooth (email password : String) (client : Account.Client)
    (now : Timestamp) (new : t.session? draws.record = none) :
    Smooth t ((overUnreliable tokens hashing fun _ => none).login email password client now
      draws) := by
  rw [login_eq]
  refine .request (orNotFound_ne_conflict _ _) ?_
  simp only [Tables.run]
  cases known : t.userOf? email with
  | none => exact .pure _
  | some u =>
      simp only [Tables.orNotFound]
      split
      · exact .pure _
      · refine .request ?_ ?_
        · exact createSession_ne_conflict new
        · split <;> exact .pure _

theorem user_smooth {α : Type} {id : Uuid} {k : Except Error User → StateM Watched α}
    (rest : ∀ answer, Smooth t (k answer)) :
    Smooth t ((overUnreliable tokens hashing fun _ => none).user id >>= k) := by
  rw [user, bind_assoc]
  refine .request (orNotFound_ne_conflict _ _) ?_
  rw [Tables.run, Tables.orNotFound_snd]
  split
  · exact rest _
  · exact rest _
  · exact rest _

theorem refresh_smooth (token : String) (client : Account.Client)
    (now : Timestamp) (new : t.session? draws.record = none) :
    Smooth t ((overUnreliable tokens hashing fun _ => none).refresh token client now draws) := by
  rw [refresh]
  split
  · exact .pure _
  refine user_smooth fun answer => ?_
  split
  · exact .pure _
  refine .request (orNotFound_ne_conflict _ _) ?_
  simp only [Tables.run]
  cases behind : t.sessionOf? token with
  | none => exact .pure _
  | some x =>
      simp only [Tables.orNotFound]
      split
      · exact .pure _
      split
      · exact .request (deleteSession_ne_conflict _ _) (.pure _)
      · refine .request ?_ ?_
        · exact rotateSession_ne_conflict new _
        · split <;> exact .pure _

theorem logout_smooth (token : String) :
    Smooth t ((overUnreliable tokens hashing fun _ => none).logout token) := by
  refine .request (orNotFound_ne_conflict _ _) ?_
  split
  · exact .pure _
  · exact .pure _
  · refine .request (deleteSession_ne_conflict _ _) ?_
    split <;> exact .pure _

theorem logoutAll_smooth (userId : Uuid) :
    Smooth t ((overUnreliable tokens hashing fun _ => none).logoutAll userId) := by
  refine .request (ok_ne_conflict _) ?_
  split <;> exact .pure _

theorem requestReset_smooth (email : String) (now : Timestamp)
    (new : t.reset? draws.record = none)
    (unknown : ∀ u, t.resetOf? (resetToken (inMemory tokens hashing) u now draws) = none) :
    Smooth t ((overUnreliable tokens hashing fun _ => none).requestReset email now draws) := by
  refine .request (orNotFound_ne_conflict _ _) ?_
  simp only [Tables.run]
  cases known : t.userOf? email with
  | none => exact .pure _
  | some u =>
      simp only [Tables.orNotFound]
      refine .request ?_ ?_
      · exact createReset_ne_conflict new (unknown u)
      · split <;> exact .pure _

theorem resetPassword_smooth (token password : String) (now later : Timestamp) (salt : Bytes) :
    Smooth t ((overUnreliable tokens hashing fun _ => none).resetPassword token password now
      later salt) := by
  rw [resetPassword]
  split
  · exact .pure _
  refine user_smooth fun answer => ?_
  split
  · exact .pure _
  refine .request (orNotFound_ne_conflict _ _) ?_
  split
  · exact .pure _
  · exact .pure _
  split
  · exact .pure _
  split
  · exact .pure _
  split
  · exact .pure _
  split
  · exact .pure _
  refine .request (consumeReset_ne_conflict _ _ _ _) ?_
  split
  · exact .pure _
  · exact .pure _
  · refine .request (ok_ne_conflict _) ?_
    split <;> exact .pure _

theorem sweep_smooth (now : Timestamp) :
    Smooth t (sweep (Store.unreliable fun _ => none) now) := by
  refine .request (ok_ne_conflict _) ?_
  refine .request (ok_ne_conflict _) ?_
  exact .pure _

theorem serve_smooth {e : Event} (fresh : Fresh tokens e.drawn t) :
    Smooth t (e.serve (overUnreliable tokens hashing fun _ => none)) := by
  cases e with
  | register email password role now draws =>
      exact (register_smooth email password role now (fresh.users _ (by simp [Event.drawn]))).map _
  | login email password client now draws =>
      exact (login_smooth email password client now
        (fresh.sessions _ (by simp [Event.drawn]))).map _
  | refresh token client now draws =>
      exact (refresh_smooth token client now (fresh.sessions _ (by simp [Event.drawn]))).map _
  | logout token => exact (logout_smooth token).map _
  | logoutAll userId => exact (logoutAll_smooth userId).map _
  | requestReset email now draws =>
      refine (requestReset_smooth email now (fresh.resets _ (by simp [Event.drawn])) ?_).map _
      intro u
      exact fresh.tokens _ (issued_resetToken (inMemory tokens hashing) u now
        (by simp [Event.drawn]))
  | resetPassword token password now later salt =>
      exact (resetPassword_smooth token password now later salt).map _
  | sweep now => exact (sweep_smooth now).map _

end

end Gatehouse.Service
