import Gatehouse.Proofs.RowOrder
import Gatehouse.Proofs.Statements

/-!
A request about sessions or resets to a database is the request to the tables whose rows it
holds: the same answer, and the rows of the tables that the request leaves. The condition under
which memory refuses is the one under which a statement clashes or meets no row.
-/

namespace Gatehouse.Sql

open Account (User Session Reset)
open Store (Tables Op)
open Store.Tables (Keyed)

/-- What a request to tables gives, with a database in place of the tables. -/
def recorded {α : Type} (o : Tables.Outcome α) : Except Store.Error α × Engine :=
  (o.1, ⟨.of o.2, none⟩)

section
variable {q : Query} {d d' : Database} {r : Result} (before : Option Database)

theorem execute_engine : engine.execute q ⟨d, before⟩
    = ((d.execute q).1, ⟨(d.execute q).2, before⟩) := rfl

theorem query_of_ok (h : d.execute q = (.ok r, d')) :
    engine.query q ⟨d, before⟩ = (.ok r, ⟨d', before⟩) := by
  rw [Server.query, bind_apply, execute_engine, h]
  rfl

theorem run_of_ok (h : d.execute q = (.ok r, d')) :
    engine.run q ⟨d, before⟩ = (.ok (), ⟨d', before⟩) := by
  rw [Server.run, bind_apply, query_of_ok before h]
  rfl

theorem run_of_duplicate (h : d.execute q = (.error duplicate, d)) :
    engine.run q ⟨d, before⟩ = (.error .conflict, ⟨d, before⟩) := by
  rw [Server.run, bind_apply, Server.query, bind_apply, execute_engine, h]
  rfl

theorem tally_of_ok (h : d.execute q = (.ok r, d')) :
    engine.tally q ⟨d, before⟩ = (.ok r.affected, ⟨d', before⟩) := by
  rw [Server.tally, bind_apply, query_of_ok before h]
  rfl

theorem change_of_ok (h : d.execute q = (.ok r, d')) :
    engine.change q ⟨d, before⟩
      = (if r.affected = 0 then .error .notFound else .ok (), ⟨d', before⟩) := by
  rw [Server.change, bind_apply, query_of_ok before h]
  rfl

theorem change_of_duplicate (h : d.execute q = (.error duplicate, d)) :
    engine.change q ⟨d, before⟩ = (.error .conflict, ⟨d, before⟩) := by
  rw [Server.change, bind_apply, Server.query, bind_apply, execute_engine, h]
  rfl

theorem fetch_of_ok {α : Type} {read : Row → Except Store.Error α}
    (h : d.execute q = (.ok r, d')) : engine.fetch q read ⟨d, before⟩
      = ((r.first?.map read).getD (.error .notFound), ⟨d', before⟩) := by
  rw [Server.fetch, bind_apply, query_of_ok before h]
  rfl

theorem changeThen_of_ok (next : StateM Engine (Except Store.Error Unit))
    (h : d.execute q = (.ok r, d')) : engine.changeThen q next ⟨d, before⟩
      = if r.affected = 0 then (.error .notFound, ⟨d', before⟩) else next ⟨d', before⟩ := by
  rw [Server.changeThen, bind_apply, change_of_ok before h]
  split <;> rfl

theorem start_engine : engine.start ⟨d, none⟩ = (.ok (), ⟨d, some d⟩) := rfl

theorem transaction_of_ok {body : StateM Engine (Except Store.Error Unit)}
    (h : body ⟨d, some d⟩ = (.ok (), ⟨d', some d⟩)) :
    engine.transaction body ⟨d, none⟩ = (.ok (), ⟨d', none⟩) := by
  rw [Server.transaction, bind_apply, start_engine]
  dsimp only
  rw [bind_apply, h]
  rfl

theorem transaction_of_error {body : StateM Engine (Except Store.Error Unit)} {e : Store.Error}
    (h : body ⟨d, some d⟩ = (.error e, ⟨d', some d⟩)) :
    engine.transaction body ⟨d, none⟩ = (.error e, ⟨d, none⟩) := by
  rw [Server.transaction, bind_apply, start_engine]
  dsimp only
  rw [bind_apply, h]
  rfl

end

section
variable {t : Tables}

theorem apart_sessions (keyed : Keyed t) :
    t.sessions.Pairwise fun a b => decide (a.id = b.id) = false :=
  (List.pairwise_map.1 keyed.sessions).imp fun ne => decide_eq_false ne

theorem apart_resets (keyed : Keyed t) :
    t.resets.Pairwise fun a b => (decide (a.id = b.id) || decide (a.token = b.token)) = false :=
  ((List.pairwise_map.1 keyed.resets).and (List.pairwise_map.1 keyed.tokens)).imp
    fun ne => by simp [ne.1, ne.2]

theorem execute_insertSession (keyed : Keyed t) (x : Session) :
    (Database.of t).execute (insertSession x)
      = if (t.session? x.id).isSome then (.error duplicate, .of t)
        else (.ok ⟨1, [], []⟩, .of { t with sessions := t.sessions ++ [x] }) := by
  have stored : (Database.of t).rows .sessions = t.sessions.map ofSession := rfl
  have found : t.sessions.any (fun y => decide (y.id = x.id)) = (t.session? x.id).isSome :=
    List.isSome_find?.symm
  rw [insertSession, execute_insert stored clash_sessions (apart_sessions keyed), found]
  rfl

theorem execute_insertReset (keyed : Keyed t) (r : Reset) :
    (Database.of t).execute (insertReset r)
      = if (t.reset? r.id).isSome || (t.resetOf? r.token).isSome then (.error duplicate, .of t)
        else (.ok ⟨1, [], []⟩, .of { t with resets := t.resets ++ [r] }) := by
  have stored : (Database.of t).rows .resets = t.resets.map ofReset := rfl
  have found : t.resets.any (fun q => decide (q.id = r.id) || decide (q.token = r.token))
      = ((t.reset? r.id).isSome || (t.resetOf? r.token).isSome) := by
    rw [Tables.reset?, Tables.resetOf?, List.isSome_find?, List.isSome_find?, Bool.eq_iff_iff]
    simp only [List.any_eq_true, Bool.or_eq_true, and_or_left, exists_or]
  rw [insertReset, execute_insert stored clash_resets (apart_resets keyed), found]
  rfl

theorem execute_deleteSession (t : Tables) (id : Uuid) :
    (Database.of t).execute (deleteBy .sessions .id (.uuid id))
      = (.ok ⟨t.sessions.countP (·.id = id), [], []⟩,
          .of { t with sessions := t.sessions.filter (·.id ≠ id) }) := by
  have stored : (Database.of t).rows .sessions = t.sessions.map ofSession := rfl
  simp only [deleteBy, execute_delete stored (holds_sessionId id), ne_eq, decide_not]
  rfl

theorem execute_deleteUserSessions (t : Tables) (userId : Uuid) :
    (Database.of t).execute (deleteBy .sessions .userId (.uuid userId))
      = (.ok ⟨t.sessions.countP (·.userId = userId), [], []⟩,
          .of { t with sessions := t.sessions.filter (·.userId ≠ userId) }) := by
  have stored : (Database.of t).rows .sessions = t.sessions.map ofSession := rfl
  simp only [deleteBy, execute_delete stored (holds_sessionUser userId), ne_eq, decide_not]
  rfl

theorem execute_deleteExpiredSessions (t : Tables) (now : Timestamp) :
    (Database.of t).execute (deleteExpiredSessions now)
      = (.ok ⟨t.sessions.countP (·.isExpired now), [], []⟩,
          .of { t with sessions := t.sessions.filter (!·.isExpired now) }) := by
  have stored : (Database.of t).rows .sessions = t.sessions.map ofSession := rfl
  rw [deleteExpiredSessions, execute_delete stored (holds_sessionExpired now)]
  rfl

theorem execute_deleteSpentResets (t : Tables) (now : Timestamp) :
    (Database.of t).execute (deleteSpentResets now)
      = (.ok ⟨t.resets.countP (!Tables.isClaimable · now), [], []⟩,
          .of { t with resets := t.resets.filter (Tables.isClaimable · now) }) := by
  have stored : (Database.of t).rows .resets = t.resets.map ofReset := rfl
  simp only [deleteSpentResets, execute_delete stored (holds_spent now), Bool.not_not]
  rfl

theorem execute_claim (t : Tables) (id : Uuid) (at_ : Timestamp) :
    (Database.of t).execute (claim id at_)
      = (.ok ⟨t.resets.countP fun r => decide (r.id = id) && !r.isUsed, [], []⟩,
          .of { t with resets := t.resets.map fun r =>
            if (decide (r.id = id) && !r.isUsed) then { r with usedAt := some at_ } else r }) := by
  have stored : (Database.of t).rows .resets = t.resets.map ofReset := rfl
  rw [claim, execute_update stored (holds_claim id at_) rfl fun r => assign_usedAt r at_ _]
  rfl

theorem execute_claimUnexpired (t : Tables) (id : Uuid) (at_ : Timestamp) :
    (Database.of t).execute (claimUnexpired id at_)
      = (.ok ⟨t.resets.countP fun r => decide (r.id = id) && Tables.isClaimable r at_, [], []⟩,
          .of { t with resets := t.resets.map fun r =>
            if (decide (r.id = id) && Tables.isClaimable r at_) then
              { r with usedAt := some at_ } else r }) := by
  have stored : (Database.of t).rows .resets = t.resets.map ofReset := rfl
  rw [claimUnexpired,
    execute_update stored (holds_claimUnexpired id at_) rfl fun r => assign_usedAt r at_ _]
  rfl

theorem execute_setPassword (t : Tables) (u : User) (at_ : Timestamp) :
    (Database.of t).execute (setPassword u at_)
      = (.ok ⟨t.users.countP (·.id = u.id), [], []⟩,
          .of (t.changeUser u.id fun v =>
            { v with passwordHash := u.passwordHash, updatedAt := at_ })) := by
  have stored : (Database.of t).rows .users = t.users.map ofUser := rfl
  rw [setPassword, execute_update stored (holds_userId u.id · _ _) rfl fun v =>
    assign_password v u.passwordHash at_ _]
  simp only [Tables.changeUser, decide_eq_true_eq]
  rfl

theorem fetch_engine {α : Type} {table : Table} {rows : List α} {write : α → Record}
    {c : Condition} {parameters : List Cell} {meant : α → Bool}
    (stored : (Database.of t).rows table = rows.map write)
    (holds : ∀ a, c.holds table parameters (write a) = meant a) {read : Row → Except Store.Error α}
    (reads : ∀ a, read ((table.columns.map fun x => (x.name, x.type)).zip (write a)) = .ok a) :
    engine.fetch ⟨.select table c, parameters⟩ read ⟨.of t, none⟩
      = recorded (Tables.orNotFound (rows.find? meant) t) := by
  rw [fetch_of_ok none (execute_select stored holds), ← List.head?_filter]
  cases rows.filter meant with
  | nil => rfl
  | cons a as => simp [Result.first?, reads, recorded, Tables.orNotFound]

end

section
variable {t : Tables} {α : Type} {xs : List α} {p : α → Bool}

theorem countP_of_none (h : xs.find? p = none) : xs.countP p = 0 :=
  List.countP_eq_zero.2 (List.find?_eq_none.1 h)

theorem countP_of_some {a : α} (h : xs.find? p = some a) : xs.countP p ≠ 0 := fun none =>
  List.countP_eq_zero.1 none a (List.mem_of_find?_eq_some h) (List.find?_some h)

/-- Resets of an identifier that pass a test: there is one if the one reset of that identifier
does, and none otherwise. -/
theorem claim_cases (keyed : Keyed t) (id : Uuid) (p : Reset → Bool) (f : Reset → Reset) :
    (∃ r, t.reset? id = some r ∧ p r = true ∧
      (t.resets.countP fun q => decide (q.id = id) && p q) ≠ 0 ∧
      (t.resets.map fun q => if (decide (q.id = id) && p q) then f q else q)
        = t.resets.map fun q => if q.id = id then f q else q) ∨
    ((∀ r, t.reset? id = some r → p r = false) ∧
      (t.resets.countP fun q => decide (q.id = id) && p q) = 0 ∧
      (t.resets.map fun q => if (decide (q.id = id) && p q) then f q else q) = t.resets) := by
  by_cases claimed : ∃ r, t.reset? id = some r ∧ p r = true
  · obtain ⟨r, found, passes⟩ := claimed
    have hr := List.mem_of_find?_eq_some found
    have same : r.id = id := by simpa using List.find?_some found
    refine .inl ⟨r, found, passes, ?_, ?_⟩
    · intro none
      exact List.countP_eq_zero.1 none r hr (by simp [same, passes])
    · apply List.map_congr_left
      intro q hq
      by_cases other : q.id = id
      · rw [List.inj_on_of_nodup_map keyed.resets hq hr (other.trans same.symm)]
        simp [same, passes]
      · simp [other]
  · have fails : ∀ q ∈ t.resets, (decide (q.id = id) && p q) = false := by
      intro q hq
      by_cases same : q.id = id
      · have found : t.reset? id = some q := same ▸ find?_key keyed.resets hq
        rw [Bool.eq_false_iff.2 fun passes => claimed ⟨q, found, passes⟩, Bool.and_false]
      · rw [decide_eq_false same, Bool.false_and]
    refine .inr ⟨?_, ?_, ?_⟩
    · intro r found
      exact Bool.eq_false_iff.2 fun passes => claimed ⟨r, found, passes⟩
    · rw [List.countP_eq_zero]
      intro q hq
      rw [fails q hq]
      exact Bool.false_ne_true
    · refine (List.map_congr_left fun q hq => ?_).trans (List.map_id _)
      rw [fails q hq]
      rfl

end

section
variable {t : Tables}

theorem perform_createSession (keyed : Keyed t) (x : Session) :
    perform engine (.createSession x) ⟨.of t, none⟩ = recorded (Tables.createSession x t) := by
  have done := execute_insertSession keyed x
  rw [perform, Tables.createSession]
  split at done
  next taken => rw [run_of_duplicate none done, if_pos taken, recorded]
  next new => rw [run_of_ok none done, if_neg new, recorded]

theorem perform_deleteSession (id : Uuid) :
    perform engine (.deleteSession id) ⟨.of t, none⟩ = recorded (Tables.deleteSession id t) := by
  rw [perform, change_of_ok none (execute_deleteSession t id), Tables.deleteSession]
  cases found : t.session? id with
  | none =>
      have kept : t.sessions.filter (·.id ≠ id) = t.sessions := by
        rw [List.filter_eq_self]
        intro x hx
        simpa using List.find?_eq_none.1 found x hx
      rw [if_pos (countP_of_none found), kept]
      rfl
  | some x =>
      rw [if_neg (countP_of_some found)]
      rfl

/-- The new session may have the identifier of the old one, since that is gone by then. -/
theorem perform_rotateSession (keyed : Keyed t) (old : Uuid) (x : Session) :
    perform engine (.rotateSession old x) ⟨.of t, none⟩
      = recorded (Tables.rotateSession old x t) := by
  have deleted := execute_deleteSession t old
  have body := changeThen_of_ok (some (Database.of t)) (engine.run (insertSession x)) deleted
  rw [perform, Tables.rotateSession]
  cases found : t.session? old with
  | none =>
      rw [if_pos (countP_of_none found)] at body
      rw [transaction_of_error body]
      rfl
  | some y =>
      have inserted := execute_insertSession (keyed.filterSessions (·.id ≠ old)) x
      rw [Tables.session?_filter] at inserted
      rw [if_neg (countP_of_some found)] at body
      split at inserted
      next taken =>
        rw [run_of_duplicate _ inserted] at body
        rw [transaction_of_error body, if_neg (by simp), if_pos (by simpa using taken), recorded]
      next free =>
        rw [run_of_ok _ inserted] at body
        rw [transaction_of_ok body, if_neg (by simp), if_neg (by simpa using free), recorded]

theorem perform_createReset (keyed : Keyed t) (r : Reset) :
    perform engine (.createReset r) ⟨.of t, none⟩ = recorded (Tables.createReset r t) := by
  have done := execute_insertReset keyed r
  rw [perform, Tables.createReset]
  split at done
  next taken => rw [run_of_duplicate none done, if_pos taken, recorded]
  next new => rw [run_of_ok none done, if_neg new, recorded]

theorem perform_markResetUsed (keyed : Keyed t) (id : Uuid) (at_ : Timestamp) :
    perform engine (.markResetUsed id at_) ⟨.of t, none⟩
      = recorded (Tables.markResetUsed id at_ t) := by
  rw [perform, change_of_ok none (execute_claim t id at_), Tables.markResetUsed]
  rcases claim_cases keyed id (!·.isUsed) (fun r => { r with usedAt := some at_ }) with
    ⟨r, found, unused, some, changed⟩ | ⟨used, none, kept⟩
  · rw [if_neg some, changed, found]
    dsimp only
    rw [if_neg (by simpa using unused)]
    rfl
  · rw [if_pos none, kept]
    cases found : t.reset? id with
    | none => rfl
    | some r =>
        dsimp only
        rw [if_pos (by simpa using used r found), recorded]

/-- A user that is missing undoes the claim. -/
theorem perform_consumeReset (keyed : Keyed t) (id : Uuid) (u : User) (at_ : Timestamp) :
    perform engine (.consumeReset id u at_) ⟨.of t, none⟩
      = recorded (Tables.consumeReset id u at_ t) := by
  have claimed := execute_claimUnexpired t id at_
  have body := changeThen_of_ok (some (Database.of t)) (engine.change (setPassword u at_)) claimed
  rw [perform, Tables.consumeReset]
  rcases claim_cases keyed id (Tables.isClaimable · at_) (fun r => { r with usedAt := some at_ })
    with ⟨r, found, free, some, changed⟩ | ⟨taken, none, kept⟩
  · have written := execute_setPassword (t.stampReset id at_) u at_
    have users : (t.stampReset id at_).users = t.users := rfl
    rw [users] at written
    rw [if_neg some, changed] at body
    replace body := body.trans (change_of_ok _ written)
    rw [found]
    dsimp only
    cases user : t.user? u.id with
    | none =>
        rw [if_pos (countP_of_none user)] at body
        rw [transaction_of_error body, if_neg (by simp), recorded]
    | some v =>
        rw [if_neg (countP_of_some user)] at body
        rw [transaction_of_ok body, if_pos (by simp [free]), recorded]
  · rw [if_pos none, kept] at body
    rw [transaction_of_error body]
    cases found : t.reset? id with
    | none => rfl
    | some r =>
        dsimp only
        rw [taken r found]
        rfl

theorem perform_deleteUserSessions (userId : Uuid) :
    perform engine (.deleteUserSessions userId) ⟨.of t, none⟩
      = recorded (Tables.keepSessions (·.userId ≠ userId) t) := by
  rw [perform, tally_of_ok none (execute_deleteUserSessions t userId), Tables.keepSessions]
  simp only [recorded, List.countP_eq_length_filter, ne_eq, decide_not, Bool.not_not]

theorem perform_deleteExpiredSessions (now : Timestamp) :
    perform engine (.deleteExpiredSessions now) ⟨.of t, none⟩
      = recorded (Tables.keepSessions (!·.isExpired now) t) := by
  rw [perform, tally_of_ok none (execute_deleteExpiredSessions t now), Tables.keepSessions]
  simp only [recorded, List.countP_eq_length_filter, Bool.not_not]

theorem perform_deleteExpiredResets (now : Timestamp) :
    perform engine (.deleteExpiredResets now) ⟨.of t, none⟩
      = recorded (Tables.deleteExpiredResets now t) := by
  rw [perform, tally_of_ok none (execute_deleteSpentResets t now), Tables.deleteExpiredResets,
    recorded, List.countP_eq_length_filter]

theorem perform_engine (keyed : Keyed t) {α : Type} (op : Op α)
    (ours : op.method.isOnUsers = false) :
    perform engine op ⟨.of t, none⟩ = recorded (Tables.run op t) := by
  have sessions : (Database.of t).rows .sessions = t.sessions.map ofSession := rfl
  have resets : (Database.of t).rows .resets = t.resets.map ofReset := rfl
  cases op with
  | createUser | userById | userByEmail | updateUser => cases ours
  | createSession x => exact perform_createSession keyed x
  | sessionById id => exact fetch_engine sessions (holds_sessionId id) session_ofSession
  | sessionByToken token => exact fetch_engine sessions (holds_sessionToken token) session_ofSession
  | deleteSession id => exact perform_deleteSession id
  | deleteUserSessions userId => exact perform_deleteUserSessions userId
  | rotateSession old x => exact perform_rotateSession keyed old x
  | deleteExpiredSessions now => exact perform_deleteExpiredSessions now
  | createReset r => exact perform_createReset keyed r
  | resetByToken token => exact fetch_engine resets (holds_resetToken token) reset_ofReset
  | markResetUsed id at_ => exact perform_markResetUsed keyed id at_
  | consumeReset id u at_ => exact perform_consumeReset keyed id u at_
  | deleteExpiredResets now => exact perform_deleteExpiredResets now

end

end Gatehouse.Sql
