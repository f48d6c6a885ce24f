import Gatehouse.Proofs.Requests
import Gatehouse.Proofs.SingleUse

/-!
What is left when a request is lost. Nothing is written before the one request that writes, so
an event that fails leaves the tables as they were; two requests come after the outcome is
settled, and losing one of these changes nothing else.
-/

namespace Gatehouse.Service

open Account (User Session Reset)
open Store (Tables Watched Outage Call Method)

def Answer.failure? : Answer → Option Error
  | .user (.error e) => some e
  | .pair (.error e) => some e
  | .ended (.error e) => some e
  | .count (.error e) => some e
  | .token (.error e) => some e
  | .change (.error e) => some e
  | _ => none

/-- The call was lost. -/
def IsLost (call : Call) : Prop := ∃ o : Outage, call.failure = some o.error

/-- Over a store of which requests may be lost, a computation does what another does over tables
that are always reached, until a request is lost, which ends it as told. -/
def Tracks {α : Type} (t : Tables) (ending : Method → Outage → α → Tables → Prop)
    (x : StateM Tables α) (y : StateM Watched α) : Prop :=
  ∀ w : Watched, w.tables = t → ∃ calls, (y w).2.calls = w.calls ++ calls ∧
    (((∀ call ∈ calls, ¬ IsLost call) ∧ ((y w).1, (y w).2.tables) = x t) ∨
      ∃ made m o, calls = made ++ [⟨m, some o.error⟩] ∧ (∀ call ∈ made, ¬ IsLost call) ∧
        ending m o (y w).1 (y w).2.tables)

theorem failureOf_run {α : Type} (op : Store.Op α) (t : Tables) :
    Store.failureOf (Tables.run op t).1 ∈ [none, some .notFound, some .conflict] := by
  cases op <;> simp only [Tables.run, Tables.createUser, Tables.updateUser,
    Tables.createSession, Tables.keepSessions, Tables.deleteSession, Tables.rotateSession,
    Tables.createReset, Tables.markResetUsed, Tables.consumeReset, Tables.deleteExpiredResets,
    Tables.orNotFound] <;> (repeat' split) <;> simp [Store.failureOf]

theorem not_isLost_run {α : Type} (op : Store.Op α) (t : Tables) :
    ¬ IsLost ⟨op.method, Store.failureOf (Tables.run op t).1⟩ := by
  rintro ⟨o, h⟩
  have answer := failureOf_run op t
  dsimp only at h
  rw [h] at answer
  cases o <;> simp [Outage.error] at answer

section
variable {α β : Type} {faults : Nat → Option Outage} {t : Tables}

theorem Tracks.pure {ending : Method → Outage → α → Tables → Prop} (a : α) :
    Tracks t ending (pure a) (pure a) := by
  rintro w rfl
  exact ⟨[], (List.append_nil _).symm, .inl ⟨List.forall_mem_nil _, rfl⟩⟩

theorem Tracks.request {ending : Method → Outage → β → Tables → Prop} {op : Store.Op α}
    {k : Except Store.Error α → StateM Tables β} {k' : Except Store.Error α → StateM Watched β}
    (lost : ∀ o : Outage, ∃ b, k' (.error o.error) = Pure.pure b ∧ ending op.method o b t)
    (rest : Tracks (Tables.run op t).2 ending (k (Tables.run op t).1)
      (k' (Tables.run op t).1)) :
    Tracks t ending (Store.memory.run op >>= k)
      ((Store.unreliable faults).run op >>= k') := by
  rintro w rfl
  rw [bind_apply]
  cases fault : faults w.calls.length with
  | some o =>
      obtain ⟨b, same, ended⟩ := lost o
      rw [Store.run_of_lost fault]
      dsimp only
      rw [same]
      exact ⟨[⟨op.method, some o.error⟩], rfl,
        .inr ⟨[], op.method, o, rfl, List.forall_mem_nil _, ended⟩⟩
  | none =>
      rw [Store.run_of_reached fault]
      dsimp only
      obtain ⟨calls, all, outcome⟩ := rest ⟨(Tables.run op w.tables).2,
        w.calls ++ [⟨op.method, Store.failureOf (Tables.run op w.tables).1⟩]⟩ rfl
      have first := not_isLost_run op w.tables
      refine ⟨⟨op.method, Store.failureOf (Tables.run op w.tables).1⟩ :: calls, ?_, ?_⟩
      · rw [all, List.append_assoc, List.singleton_append]
      · rcases outcome with ⟨reached, same⟩ | ⟨made, m, o, rfl, reached, ended⟩
        · exact .inl ⟨List.forall_mem_cons.2 ⟨first, reached⟩, same⟩
        · exact .inr ⟨_ :: made, m, o, rfl, List.forall_mem_cons.2 ⟨first, reached⟩, ended⟩

theorem Tracks.map {ending : Method → Outage → β → Tables → Prop} {x : StateM Tables α}
    {y : StateM Watched α} (f : α → β)
    (h : Tracks t (fun m o a t' => ending m o (f a) t') x y) :
    Tracks t ending (do return f (← x)) (do return f (← y)) := by
  intro w same
  obtain ⟨calls, all, outcome⟩ := h w same
  refine ⟨calls, all, ?_⟩
  rcases outcome with ⟨reached, same⟩ | lost
  · refine .inl ⟨reached, ?_⟩
    change (f (y w).1, (y w).2.tables) = (f (x t).1, (x t).2)
    rw [← same]
  · exact .inr lost

end

/-- The requests whose loss an event does not fail for. -/
def Event.tolerates : Event → Method → Bool
  | .refresh .., m => m = .deleteSession
  | .resetPassword .., m => m = .deleteUserSessions
  | _, _ => false

/-- What an event is answered and leaves behind when a request of it is lost. The failure is
told as one of the store, and nothing is done; but a session that has expired is refused as
such, and a password stays changed whose sessions could not be ended. -/
inductive Aftermath (tokens : Token.Config) (hashing : Password.Hasher) (t : Tables) :
    Event → Method → Outage → Answer → Tables → Prop where
  | undone {e m o a} (ordinary : e.tolerates m = false)
      (told : a.failure? = some (.internal (.store o.error))) :
      Aftermath tokens hashing t e m o a t
  | lapsed {token client now draws o x} (behind : t.sessionOf? token = some x)
      (expired : x.isExpired now = true) :
      Aftermath tokens hashing t (.refresh token client now draws) .deleteSession o
        (.pair (.error .tokenExpired)) t
  | kept {token password now later salt o claims u r hash}
      (valid : tokens.validate .reset now.seconds token = .ok claims)
      (known : t.user? claims.userId = some u) (behind : t.resetOf? token = some r)
      (own : r.userId = u.id) (hashed : Password.hash hashing.settings salt password = .ok hash)
      (stored : (withDigest t r u hash later).user? u.id = some (rehashed u hash later))
      (used : (withDigest t r u hash later).resetOf? token
        = some { r with usedAt := some later })
      (stays : (withDigest t r u hash later).sessions = t.sessions) :
      Aftermath tokens hashing t (.resetPassword token password now later salt)
        .deleteUserSessions o (.change (.ok ⟨[.sessionsKept]⟩)) (withDigest t r u hash later)

/-- The same of what a call of the service gives, as the answer to an event. -/
abbrev Ending {α : Type} (tokens : Token.Config) (hashing : Password.Hasher) (t : Tables)
    (e : Event) (answer : α → Answer) (m : Method) (o : Outage) (a : α) (t' : Tables) : Prop :=
  Aftermath tokens hashing t e m o (answer a) t'

section
variable {tokens : Token.Config} {hashing : Password.Hasher} {faults : Nat → Option Outage}
  {t : Tables}

theorem user?_withDigest {id : Uuid} {u : User} (known : t.user? id = some u) (r : Reset)
    (hash : String) (at_ : Timestamp) :
    (withDigest t r u hash at_).user? u.id = some (rehashed u hash at_) := by
  have same : u.id = id := by simpa using List.find?_some known
  have found : (withDigest t r u hash at_).user? u.id = (t.user? u.id).map fun v =>
      if v.id = u.id then { v with passwordHash := hash, updatedAt := at_ } else v := by
    change (t.users.map _).find? _ = _
    rw [find?_changed]
    · rfl
    · exact fun _ => rfl
  rw [found, same, known, Option.map_some, if_pos same]

theorem resetOf?_withDigest_self {token : String} {r : Reset} (behind : t.resetOf? token = some r)
    (u : User) (hash : String) (at_ : Timestamp) :
    (withDigest t r u hash at_).resetOf? token = some { r with usedAt := some at_ } := by
  rw [resetOf?_withDigest, behind, Option.map_some, if_pos rfl]

theorem hashing_inMemory : (inMemory tokens hashing).hashing = hashing := rfl

theorem tokens_inMemory : (inMemory tokens hashing).tokens = tokens := rfl

theorem hashing_overUnreliable : (overUnreliable tokens hashing faults).hashing = hashing := rfl

theorem tokens_overUnreliable : (overUnreliable tokens hashing faults).tokens = tokens := rfl

theorem Tracks.user {α : Type} {ending : Method → Outage → α → Tables → Prop} {id : Uuid}
    {k : Except Error User → StateM Tables α} {k' : Except Error User → StateM Watched α}
    (lost : ∀ o : Outage, ∃ b, k' (.error (.ofStore o.error)) = Pure.pure b ∧
      ending .userById o b t)
    (missing : t.user? id = none →
      Tracks t ending (k (.error .userNotFound)) (k' (.error .userNotFound)))
    (known : ∀ u, t.user? id = some u → Tracks t ending (k (.ok u)) (k' (.ok u))) :
    Tracks t ending ((inMemory tokens hashing).user id >>= k)
      ((overUnreliable tokens hashing faults).user id >>= k') := by
  simp only [Service.user, bind_assoc]
  refine .request ?_ ?_
  · rintro (o | o)
    · exact lost (.unavailable o)
    · exact lost (.database o)
  simp only [Tables.run]
  cases found : t.user? id with
  | none => exact missing found
  | some u => exact known u found

theorem register_tracks (email password : String) (role : Option Account.Role)
    (now : Timestamp) (draws : Draws) :
    Tracks t (Ending tokens hashing t (.register email password role now draws) .user)
      ((inMemory tokens hashing).register email password role now draws)
      ((overUnreliable tokens hashing faults).register email password role now draws) := by
  refine .request ?_ ?_
  · rintro (o | o) <;> exact ⟨_, rfl, .undone rfl rfl⟩
  simp only [Tables.run]
  cases t.userOf? email with
  | some u => exact .pure _
  | none =>
      rw [hashing_inMemory, hashing_overUnreliable]
      simp only [Tables.orNotFound]
      split
      · exact .pure _
      refine .request ?_ ?_
      · rintro (o | o) <;> exact ⟨_, rfl, .undone rfl rfl⟩
      split <;> exact .pure _

theorem login_tracks (email password : String) (client : Account.Client)
    (now : Timestamp) (draws : Draws) :
    Tracks t (Ending tokens hashing t (.login email password client now draws) .pair)
      ((inMemory tokens hashing).login email password client now draws)
      ((overUnreliable tokens hashing faults).login email password client now draws) := by
  rw [login_eq, login_eq]
  refine .request ?_ ?_
  · rintro (o | o) <;> exact ⟨_, rfl, .undone rfl rfl⟩
  simp only [Tables.run]
  cases t.userOf? email with
  | none => exact .pure _
  | some u =>
      simp only [Tables.orNotFound]
      split
      · exact .pure _
      refine .request ?_ ?_
      · rintro (o | o) <;> exact ⟨_, rfl, .undone rfl rfl⟩
      split <;> exact .pure _

theorem refresh_tracks (token : String) (client : Account.Client) (now : Timestamp)
    (draws : Draws) :
    Tracks t (Ending tokens hashing t (.refresh token client now draws) .pair)
      ((inMemory tokens hashing).refresh token client now draws)
      ((overUnreliable tokens hashing faults).refresh token client now draws) := by
  rw [refresh, refresh, tokens_inMemory, tokens_overUnreliable]
  split
  · exact .pure _
  refine .user ?_ (fun _ => .pure _) fun u _ => ?_
  · exact fun o => ⟨_, rfl, .undone rfl rfl⟩
  refine .request ?_ ?_
  · rintro (o | o) <;> exact ⟨_, rfl, .undone rfl rfl⟩
  simp only [Tables.run]
  cases behind : t.sessionOf? token with
  | none => exact .pure _
  | some x =>
      simp only [Tables.orNotFound]
      split
      · exact .pure _
      split
      next expired =>
        refine .request ?_ (.pure _)
        exact fun o => ⟨_, rfl, .lapsed behind expired⟩
      refine .request ?_ ?_
      · rintro (o | o) <;> exact ⟨_, rfl, .undone rfl rfl⟩
      split <;> exact .pure _

theorem logout_tracks (token : String) :
    Tracks t (Ending tokens hashing t (.logout token) .ended)
      ((inMemory tokens hashing).logout token)
      ((overUnreliable tokens hashing faults).logout token) := by
  refine .request ?_ ?_
  · rintro (o | o) <;> exact ⟨_, rfl, .undone rfl rfl⟩
  simp only [Tables.run]
  cases t.sessionOf? token with
  | none => exact .pure _
  | some x =>
      simp only [Tables.orNotFound]
      refine .request ?_ ?_
      · rintro (o | o) <;> exact ⟨_, rfl, .undone rfl rfl⟩
      split <;> exact .pure _

theorem logoutAll_tracks (userId : Uuid) :
    Tracks t (Ending tokens hashing t (.logoutAll userId) .count)
      ((inMemory tokens hashing).logoutAll userId)
      ((overUnreliable tokens hashing faults).logoutAll userId) := by
  refine .request ?_ ?_
  · rintro (o | o) <;> exact ⟨_, rfl, .undone rfl rfl⟩
  split <;> exact .pure _

theorem requestReset_tracks (email : String) (now : Timestamp) (draws : Draws) :
    Tracks t (Ending tokens hashing t (.requestReset email now draws) .token)
      ((inMemory tokens hashing).requestReset email now draws)
      ((overUnreliable tokens hashing faults).requestReset email now draws) := by
  refine .request ?_ ?_
  · rintro (o | o) <;> exact ⟨_, rfl, .undone rfl rfl⟩
  simp only [Tables.run]
  cases t.userOf? email with
  | none => exact .pure _
  | some u =>
      simp only [Tables.orNotFound]
      refine .request ?_ ?_
      · rintro (o | o) <;> exact ⟨_, rfl, .undone rfl rfl⟩
      split <;> exact .pure _

theorem resetPassword_tracks (token password : String) (now later : Timestamp) (salt : Bytes) :
    Tracks t (Ending tokens hashing t (.resetPassword token password now later salt) .change)
      ((inMemory tokens hashing).resetPassword token password now later salt)
      ((overUnreliable tokens hashing faults).resetPassword token password now later salt) := by
  rw [resetPassword, resetPassword, tokens_inMemory, tokens_overUnreliable, hashing_inMemory,
    hashing_overUnreliable]
  split
  · exact .pure _
  next claims valid =>
  refine .user ?_ (fun _ => .pure _) fun u known => ?_
  · exact fun o => ⟨_, rfl, .undone rfl rfl⟩
  refine .request ?_ ?_
  · rintro (o | o) <;> exact ⟨_, rfl, .undone rfl rfl⟩
  simp only [Tables.run]
  cases behind : t.resetOf? token with
  | none => exact .pure _
  | some r =>
      simp only [Tables.orNotFound]
      split
      · exact .pure _
      next own =>
      split
      · exact .pure _
      split
      · exact .pure _
      cases hashed : Password.hash hashing.settings salt password with
      | error e => exact .pure _
      | ok hash =>
          dsimp only
          refine .request ?_ ?_
          · rintro (o | o) <;> exact ⟨_, rfl, .undone rfl rfl⟩
          simp only [Tables.run]
          rcases consumeReset_cases t r u hash later with ⟨q, -, -, consumed⟩ | gone
          · rw [consumed]
            refine .request ?_ ?_
            · exact fun o => ⟨_, rfl, .kept valid known behind (Decidable.not_not.1 own) hashed
                (user?_withDigest known ..) (resetOf?_withDigest_self behind ..) rfl⟩
            split <;> exact .pure _
          · rw [gone]
            exact .pure _

theorem serve_tracks {e : Event} (asked : e.isSweep = false) :
    Tracks t (Aftermath tokens hashing t e) (e.serve (inMemory tokens hashing))
      (e.serve (overUnreliable tokens hashing faults)) := by
  cases e with
  | register email password role now draws =>
      exact .map Answer.user (register_tracks email password role now draws)
  | login email password client now draws =>
      exact .map Answer.pair (login_tracks email password client now draws)
  | refresh token client now draws =>
      exact .map Answer.pair (refresh_tracks token client now draws)
  | logout token => exact .map Answer.ended (logout_tracks token)
  | logoutAll userId => exact .map Answer.count (logoutAll_tracks userId)
  | requestReset email now draws =>
      exact .map Answer.token (requestReset_tracks email now draws)
  | resetPassword token password now later salt =>
      exact .map Answer.change (resetPassword_tracks token password now later salt)
  | sweep now => cases asked

end

section
variable {t t' : Tables} {e : Event} {a : Answer}

theorem Step.tables_of_failed {s : Service (StateM Tables)} (step : Step s t e a t')
    (failed : a.isOk = false) : t' = t ∨ ∃ token client now draws x,
      e = .refresh token client now draws ∧ a = .pair (.error .tokenExpired) ∧
      t.sessionOf? token = some x ∧ x.isExpired now = true ∧ t' = withoutSession t x.id := by
  cases step with
  | refused | late => exact .inl rfl
  | @lapsed token client now draws claims x valid behind expired =>
      exact .inr ⟨token, client, now, draws, x, rfl, rfl, behind, expired, rfl⟩
  | registered | opened | renewed | absent | closed | allClosed | requested | changed | swept =>
      cases failed

theorem Aftermath.tables_of_failed {tokens : Token.Config} {hashing : Password.Hasher}
    {m : Method} {o : Outage} (h : Aftermath tokens hashing t e m o a t')
    (failed : a.isOk = false) : t' = t := by
  cases h with
  | undone | lapsed => rfl
  | kept => cases failed

theorem Aftermath.of_ordinary {tokens : Token.Config} {hashing : Password.Hasher}
    {m : Method} {o : Outage} (h : Aftermath tokens hashing t e m o a t')
    (ordinary : e.tolerates m = false) :
    a.failure? = some (.internal (.store o.error)) ∧ t' = t := by
  cases h with
  | undone _ told => exact ⟨told, rfl⟩
  | lapsed | kept => cases ordinary

end

theorem outage_error_injective {o o' : Outage} (h : o.error = o'.error) : o = o' := by
  cases o <;> cases o' <;> cases h <;> rfl

/-- Whichever requests of an event are lost: if none is, the event does what it does over tables
that are always reached; if one is, the event tells so and does nothing, with two exceptions
that are named; and an event that fails has changed nothing, unless it ended a session that had
expired. -/
theorem outage_atomicity (tokens : Token.Config) (hashing : Password.Hasher)
    (faults : Nat → Option Outage) (t : Tables) {e : Event} (asked : e.isSweep = false) :
    let r := e.serve (overUnreliable tokens hashing faults) { tables := t }
    ((∀ call ∈ r.2.calls, ¬ IsLost call) →
      (r.1, r.2.tables) = e.serve (inMemory tokens hashing) t) ∧
    (∀ call ∈ r.2.calls, ∀ o : Outage, call.failure = some o.error →
      Aftermath tokens hashing t e call.method o r.1 r.2.tables) ∧
    (r.1.isOk = false → r.2.tables = t ∨ ∃ token client now draws x,
      e = .refresh token client now draws ∧ r.1 = .pair (.error .tokenExpired) ∧
      t.sessionOf? token = some x ∧ x.isExpired now = true ∧
      r.2.tables = withoutSession t x.id) := by
  intro r
  obtain ⟨calls, all, outcome⟩ : ∃ calls, r.2.calls = [] ++ calls ∧
      (((∀ call ∈ calls, ¬ IsLost call) ∧
        (r.1, r.2.tables) = e.serve (inMemory tokens hashing) t) ∨
      ∃ made m o, calls = made ++ [⟨m, some o.error⟩] ∧ (∀ call ∈ made, ¬ IsLost call) ∧
        Aftermath tokens hashing t e m o r.1 r.2.tables) :=
    serve_tracks asked { tables := t } rfl
  rw [List.nil_append] at all
  rw [all]
  rcases outcome with ⟨reached, same⟩ | ⟨made, m, o, rfl, reached, ended⟩
  · have step := step_serve tokens hashing t e
    rw [← same] at step
    refine ⟨fun _ => same, ?_, step.tables_of_failed⟩
    intro call hcall o lost
    exact absurd ⟨o, lost⟩ (reached call hcall)
  · refine ⟨?_, ?_, fun failed => .inl (ended.tables_of_failed failed)⟩
    · intro kept
      exact absurd ⟨o, rfl⟩ (kept ⟨m, some o.error⟩ (by simp))
    · intro call hcall o' lost
      rcases List.mem_append.1 hcall with hcall | hcall
      · exact absurd ⟨o', lost⟩ (reached call hcall)
      · rw [List.mem_singleton.1 hcall, Option.some.injEq] at lost
        rw [List.mem_singleton.1 hcall, ← outage_error_injective lost]
        exact ended

/-- A reset is not recorded: its token is not given out either. -/
theorem outage_atomicity_createReset :
    let u : User := ⟨⟨1⟩, "a@b.cd", "", .user, ⟨0, 0⟩, ⟨0, 0⟩⟩
    let t : Tables := { users := [u] }
    let e := Event.requestReset "a@b.cd" ⟨10, 0⟩ ⟨⟨2⟩, ⟨0⟩, ⟨3⟩, []⟩
    let down := Outage.unavailable "down"
    let r := e.serve (overUnreliable sampleTokens {} fun n => if n = 1 then some down else none)
      { tables := t }
    e.isSweep = false ∧ r.2.calls = [⟨.userByEmail, none⟩, ⟨.createReset, some down.error⟩] ∧
      r.1.failure? = some (.internal (.store down.error)) ∧ r.2.tables = t := by
  intro u t e down r
  have asked : e.isSweep = false := rfl
  have calls : r.2.calls = [⟨.userByEmail, none⟩, ⟨.createReset, some down.error⟩] := rfl
  obtain ⟨-, lost, -⟩ := outage_atomicity sampleTokens {}
    (fun n => if n = 1 then some down else none) t asked
  have ended := lost ⟨.createReset, some down.error⟩ (by rw [calls]; simp) down rfl
  obtain ⟨told, unchanged⟩ := ended.of_ordinary rfl
  exact ⟨asked, calls, told, unchanged⟩

end Gatehouse.Service
