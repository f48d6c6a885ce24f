import Gatehouse.Proofs.Agreement

/-!
Users in the database and in memory. Both give the same answers and hold the same rows, with one
exception: an update of a user that is not there, to an address that another user has. Memory
looks for the address first and tells of a conflict; the statement meets no row, so the database
does not find the user. Nothing is changed in either.
-/

namespace Gatehouse.Store.Tables

open Account (User Session Reset)

/-- Users are told apart by their identifiers and by their addresses. -/
structure UsersKeyed (t : Tables) : Prop where
  ids : (t.users.map (·.id)).Nodup
  emails : (t.users.map (·.email)).Nodup

/-- What an update gives a user. -/
abbrev updated (u : User) (now : Timestamp) (v : User) : User :=
  { v with email := u.email, passwordHash := u.passwordHash, role := u.role, updatedAt := now }

/-- What a user is given when a reset is consumed. -/
abbrev rehashed (u : User) (at_ : Timestamp) (v : User) : User :=
  { v with passwordHash := u.passwordHash, updatedAt := at_ }

/-- Another user has the address. -/
def isTaken (t : Tables) (u : User) : Bool := t.users.any fun v => v.id ≠ u.id && v.email = u.email

section
variable {t t' : Tables}

/-- Addresses stay different if no other user has the new one. -/
theorem UsersKeyed.changeUser (keyed : UsersKeyed t) {u : User} (now : Timestamp)
    (free : t.isTaken u = false) : UsersKeyed (t.changeUser u.id (updated u now)) where
  ids := by
    have same : (t.changeUser u.id (updated u now)).users.map (·.id) = t.users.map (·.id) :=
      map_changed (fun v => (rfl : (updated u now v).id = v.id)) t.users
    rw [same]
    exact keyed.ids
  emails := by
    have other {v : User} (hv : v ∈ t.users) (ne : v.id ≠ u.id) : v.email ≠ u.email := by
      simpa [ne] using List.any_eq_false.1 free v hv
    rw [List.Nodup, List.pairwise_map, Tables.changeUser, List.pairwise_map]
    refine List.Pairwise.imp_of_mem ?_
      ((List.pairwise_map.1 keyed.ids).and (List.pairwise_map.1 keyed.emails))
    rintro a b ha hb ⟨ids, emails⟩
    by_cases own : a.id = u.id
    · have ne : b.id ≠ u.id := fun h => ids (own.trans h.symm)
      rw [if_pos own, if_neg ne]
      exact (other hb ne).symm
    · rw [if_neg own]
      split
      · exact other ha own
      · exact emails

theorem not_nodup_changeUser {u v : User} (now : Timestamp)
    (found : t.user? u.id = some v) (taken : t.isTaken u = true) :
    ¬ ((t.changeUser u.id (updated u now)).users.map (·.email)).Nodup := by
  obtain ⟨w, hw, h⟩ := List.any_eq_true.1 taken
  obtain ⟨ne, email⟩ : w.id ≠ u.id ∧ w.email = u.email := by simpa using h
  have hv := List.mem_of_find?_eq_some found
  have own : v.id = u.id := by simpa using List.find?_some found
  intro unique
  rw [Tables.changeUser, List.map_map] at unique
  -- the two users would have one address, so be one user
  have same := List.inj_on_of_nodup_map unique hv hw (by simp [own, ne, email])
  exact ne (same ▸ own)

theorem changeUser_of_none {id : Uuid} (missing : t.user? id = none) (f : User → User) :
    t.changeUser id f = t := by
  rw [Tables.changeUser]
  congr 1
  refine (List.map_congr_left fun v hv => ?_).trans (List.map_id _)
  exact if_neg (by simpa using List.find?_eq_none.1 missing v hv)

/-- What a request does to the users. -/
inductive UserWrite (t : Tables) : {α : Type} → Op α → List User → Prop where
  | kept {α} {op : Op α} : UserWrite t op t.users
  | added {u} (new : t.user? u.id = none) (alone : t.userOf? u.email = none) :
      UserWrite t (.createUser u) (t.users ++ [u])
  | changed {u now} (free : t.isTaken u = false) :
      UserWrite t (.updateUser u now) (t.changeUser u.id (updated u now)).users
  | rehashed {id u at_} :
      UserWrite t (.consumeReset id u at_) (t.changeUser u.id (rehashed u at_)).users

theorem userWrite_run (t : Tables) {α : Type} (op : Op α) : UserWrite t op (run op t).2.users := by
  cases op with
  | userById | userByEmail | sessionById | sessionByToken | resetByToken =>
      rw [Tables.run, orNotFound_snd]
      exact .kept
  | createUser u =>
      rw [Tables.run, createUser]
      split
      · exact .kept
      next new =>
        obtain ⟨id, email⟩ := not_or.1 (mt Bool.or_eq_true_iff.2 new)
        exact .added (Option.not_isSome_iff_eq_none.1 id) (Option.not_isSome_iff_eq_none.1 email)
  | updateUser u now =>
      rw [Tables.run, updateUser]
      split
      · exact .kept
      next free =>
        split
        · exact .kept
        · exact .changed (Bool.eq_false_iff.2 free)
  | consumeReset id u at_ =>
      rw [Tables.run, consumeReset]
      split
      · split
        · exact .rehashed
        · exact .kept
      · exact .kept
  | createSession | deleteSession | rotateSession | createReset | markResetUsed =>
      simp only [Tables.run, createSession, deleteSession, rotateSession, createReset,
        markResetUsed]
      repeat' split
      all_goals exact .kept
  | deleteUserSessions | deleteExpiredSessions | deleteExpiredResets => exact .kept

theorem UsersKeyed.write (keyed : UsersKeyed t) {α : Type} {op : Op α} {us : List User}
    (write : UserWrite t op us) : UsersKeyed { t with users := us } := by
  cases write with
  | kept => exact keyed
  | added new alone => exact ⟨nodup_concat keyed.ids new, nodup_concat keyed.emails alone⟩
  | @changed u now free => exact keyed.changeUser now free
  | @rehashed id u at_ =>
      have same {β : Type} (f : User → β) (hf : ∀ v, f (rehashed u at_ v) = f v) :
          (t.changeUser u.id (rehashed u at_)).users.map f = t.users.map f :=
        map_changed hf t.users
      exact ⟨same (·.id) (fun _ => rfl) ▸ keyed.ids, same (·.email) (fun _ => rfl) ▸ keyed.emails⟩

theorem UsersKeyed.run (keyed : UsersKeyed t) {α : Type} (op : Op α) :
    UsersKeyed (run op t).2 := by
  have written := keyed.write (userWrite_run t op)
  exact ⟨written.ids, written.emails⟩

theorem UsersKeyed.ofSameRows (keyed : UsersKeyed t) (same : SameRows t t') : UsersKeyed t' where
  ids := (same.users.map _).nodup_iff.1 keyed.ids
  emails := (same.users.map _).nodup_iff.1 keyed.emails

section
variable (same : SameRows t t')
include same

theorem SameRows.user? (keyed : UsersKeyed t) (id : Uuid) : t.user? id = t'.user? id :=
  find?_perm keyed.ids same.users id

theorem SameRows.userOf? (keyed : UsersKeyed t) (email : String) :
    t.userOf? email = t'.userOf? email :=
  find?_perm keyed.emails same.users email

/-- The order of rows makes no difference to requests about users either. -/
theorem SameRows.runUsers (keyed : UsersKeyed t) {α : Type} (op : Op α)
    (ours : op.method.isOnUsers = true) : Agree (Tables.run op t) (Tables.run op t') := by
  cases op with
  | createUser u =>
      rw [Tables.run, Tables.run, createUser, createUser, ← same.user? keyed,
        ← same.userOf? keyed]
      split
      · exact same.refused _
      · exact ⟨rfl, same.users.append_right _, same.sessions, same.resets⟩
  | userById id =>
      rw [Tables.run, Tables.run, ← same.user? keyed]
      exact same.orNotFound _
  | userByEmail email =>
      rw [Tables.run, Tables.run, ← same.userOf? keyed]
      exact same.orNotFound _
  | updateUser u now =>
      rw [Tables.run, Tables.run, updateUser, updateUser, ← same.user? keyed,
        ← same.users.any_eq]
      split
      · exact same.refused _
      · split
        · exact same.refused _
        · exact ⟨rfl, same.changeUser _ _⟩
  | createSession | sessionById | sessionByToken | deleteSession | deleteUserSessions
  | rotateSession | deleteExpiredSessions | createReset | resetByToken | markResetUsed
  | consumeReset | deleteExpiredResets => cases ours

end

end

/-- An update of a user that is not there, to an address that another user has. -/
def isStray {α : Type} (t : Tables) : Op α → Bool
  | .updateUser u _ => (t.user? u.id).isNone && t.isTaken u
  | _ => false

end Gatehouse.Store.Tables

namespace Gatehouse.Sql

open Account (User Session Reset)
open Store (Tables Failure Op memory)
open Store.Tables (UsersKeyed SameRows)

section
variable {t : Tables}

theorem apart_users (keyed : UsersKeyed t) :
    t.users.Pairwise fun a b => (decide (a.id = b.id) || decide (a.email = b.email)) = false :=
  ((List.pairwise_map.1 keyed.ids).and (List.pairwise_map.1 keyed.emails)).imp
    fun ne => by simp [ne.1, ne.2]

theorem keyed_of_apart
    (apart : t.users.Pairwise fun a b =>
      (decide (a.id = b.id) || decide (a.email = b.email)) = false) : UsersKeyed t := by
  refine ⟨List.pairwise_map.2 (apart.imp ?_), List.pairwise_map.2 (apart.imp ?_)⟩
  · intro a b h same
    simp [same] at h
  · intro a b h same
    simp [same] at h

theorem execute_insertUser (keyed : UsersKeyed t) (u : User) :
    (Database.of t).execute (insertUser u)
      = if (t.user? u.id).isSome || (t.userOf? u.email).isSome then (.error duplicate, .of t)
        else (.ok ⟨1, [], []⟩, .of { t with users := t.users ++ [u] }) := by
  have stored : (Database.of t).rows .users = t.users.map ofUser := rfl
  have found : t.users.any (fun v => decide (v.id = u.id) || decide (v.email = u.email))
      = ((t.user? u.id).isSome || (t.userOf? u.email).isSome) := by
    rw [Tables.user?, Tables.userOf?, List.isSome_find?, List.isSome_find?, Bool.eq_iff_iff]
    simp only [List.any_eq_true, Bool.or_eq_true, and_or_left, exists_or]
  rw [insertUser, execute_insert stored clash_users (apart_users keyed), found]
  rfl

theorem execute_updateUser (keyed : UsersKeyed t) (u : User) (now : Timestamp) :
    (Database.of t).execute (updateUser u now)
      = if (t.user? u.id).isSome && t.isTaken u then (.error duplicate, .of t)
        else (.ok ⟨t.users.countP (·.id = u.id), [], []⟩,
          .of (t.changeUser u.id (Tables.updated u now))) := by
  have stored : (Database.of t).rows .users = t.users.map ofUser := rfl
  have changed : (t.users.map fun v =>
      if decide (v.id = u.id) = true then Tables.updated u now v else v)
        = (t.changeUser u.id (Tables.updated u now)).users := by
    simp only [Tables.changeUser, decide_eq_true_eq]
  rw [updateUser, execute_update_unique stored (holds_userIdLast u.id · _ _ _ _) rfl
    fun v => assign_user u v now _, changed, Database.replace]
  cases found : t.user? u.id with
  | none =>
      rw [Tables.changeUser_of_none found, isConsistent_of_pairwise clash_users (apart_users keyed)]
      rfl
  | some v =>
      cases taken : t.isTaken u with
      | true =>
          have clashes : Table.users.isConsistent
              ((t.changeUser u.id (Tables.updated u now)).users.map ofUser) = false := by
            refine Bool.eq_false_iff.2 fun consistent => ?_
            have apart := pairwise_of_isConsistent clash_users consistent
            exact Tables.not_nodup_changeUser now found taken (keyed_of_apart apart).emails
          rw [clashes]
          rfl
      | false =>
          have apart := apart_users (keyed.changeUser now taken)
          rw [isConsistent_of_pairwise clash_users apart]
          rfl

theorem perform_createUser (keyed : UsersKeyed t) (u : User) :
    perform engine (.createUser u) ⟨.of t, none⟩ = recorded (Tables.createUser u t) := by
  have done := execute_insertUser keyed u
  rw [perform, Tables.createUser]
  split at done
  next taken => rw [run_of_duplicate none done, if_pos taken, recorded]
  next new => rw [run_of_ok none done, if_neg new, recorded]

theorem perform_updateUser (keyed : UsersKeyed t) (u : User) (now : Timestamp) :
    perform engine (.updateUser u now) ⟨.of t, none⟩
      = if t.isStray (.updateUser u now) then (.error .notFound, ⟨.of t, none⟩)
        else recorded (Tables.updateUser u now t) := by
  have done := execute_updateUser keyed u now
  have asked : Tables.updateUser u now t
      = if t.isTaken u then (.error .conflict, t)
        else if (t.user? u.id).isNone then (.error .notFound, t)
        else (.ok (), t.changeUser u.id (Tables.updated u now)) := rfl
  rw [perform, asked, Tables.isStray]
  cases found : t.user? u.id with
  | none =>
      rw [found, Option.isSome_none, Bool.false_and, if_neg Bool.false_ne_true,
        Tables.changeUser_of_none found] at done
      rw [change_of_ok none done, if_pos (countP_of_none found)]
      cases t.isTaken u <;> rfl
  | some v =>
      rw [found, Option.isSome_some, Bool.true_and] at done
      cases taken : t.isTaken u with
      | true =>
          rw [taken, if_pos rfl] at done
          rw [change_of_duplicate none done]
          rfl
      | false =>
          rw [taken, if_neg Bool.false_ne_true] at done
          rw [change_of_ok none done, if_neg (countP_of_some found)]
          rfl

/-- What a database that holds the rows of tables does for a request about users: it finds no
user for an update that is stray, and else does what is done in memory. -/
theorem perform_onUsers (keyed : UsersKeyed t) {α : Type} (op : Op α)
    (ours : op.method.isOnUsers = true) :
    perform engine op ⟨.of t, none⟩
      = if t.isStray op then (.error .notFound, ⟨.of t, none⟩) else recorded (Tables.run op t) := by
  have users : (Database.of t).rows .users = t.users.map ofUser := rfl
  cases op with
  | createUser u => exact perform_createUser keyed u
  | userById id => exact fetch_engine users (holds_userIdAlone id) user_ofUser
  | userByEmail email => exact fetch_engine users (holds_userEmail email) user_ofUser
  | updateUser u now => exact perform_updateUser keyed u now
  | createSession | sessionById | sessionByToken | deleteSession | deleteUserSessions
  | rotateSession | deleteExpiredSessions | createReset | resetByToken | markResetUsed
  | consumeReset | deleteExpiredResets => cases ours

end

section
variable {e : Engine} {t : Tables}

theorem run_of_isStray {α : Type} {op : Op α} (stray : t.isStray op = true) :
    memory.run op t = (.error .conflict, t) := by
  cases op with
  | updateUser u now =>
      rw [Tables.isStray, Bool.and_eq_true] at stray
      exact if_pos stray.2
  | createUser | userById | userByEmail | createSession | sessionById | sessionByToken
  | deleteSession | deleteUserSessions | rotateSession | deleteExpiredSessions | createReset
  | resetByToken | markResetUsed | consumeReset | deleteExpiredResets => cases stray

theorem isStray_congr {t' : Tables} (same : SameRows t t') (keyed : UsersKeyed t) {α : Type}
    (op : Op α) : t.isStray op = t'.isStray op := by
  cases op with
  | updateUser u now =>
      rw [Tables.isStray, Tables.isStray, ← same.user? keyed, Tables.isTaken, Tables.isTaken,
        same.users.any_eq]
  | createUser | userById | userByEmail | createSession | sessionById | sessionByToken
  | deleteSession | deleteUserSessions | rotateSession | deleteExpiredSessions | createReset
  | resetByToken | markResetUsed | consumeReset | deleteExpiredResets => rfl

theorem Holds.stepUsers (holds : Holds e t) (keyed : UsersKeyed t) {α : Type} (op : Op α)
    (ours : op.method.isOnUsers = true) :
    ((store engine).run op e).1
        = (if t.isStray op then .error .notFound else (memory.run op t).1) ∧
      Holds ((store engine).run op e).2 (memory.run op t).2 := by
  obtain ⟨current, before⟩ := e
  obtain ⟨rfl, t', same, rfl⟩ := holds
  have served : (store engine).run op ⟨.of t', none⟩
      = if t'.isStray op then (.error .notFound, ⟨.of t', none⟩)
        else recorded (Tables.run op t') := perform_onUsers (keyed.ofSameRows same) op ours
  obtain ⟨answer, rows⟩ := same.runUsers keyed op ours
  rw [served, ← isStray_congr same keyed]
  cases stray : t.isStray op with
  | true =>
      rw [run_of_isStray stray]
      exact ⟨rfl, rfl, t', same, rfl⟩
  | false => exact ⟨answer.symm, rfl, _, rows, rfl⟩

theorem Holds.runUsers (holds : Holds e t) (keyed : UsersKeyed t) {rs : List Request}
    (ours : ∀ r ∈ rs, r.isOnUsers = true) :
    Holds (after (store engine) e rs) (after memory t rs) ∧ UsersKeyed (after memory t rs) := by
  induction rs using List.reverseRecOn with
  | nil => exact ⟨holds, keyed⟩
  | append_singleton rs r ih =>
      obtain ⟨holds, keyed⟩ := ih fun r hr => ours r (List.mem_append_left _ hr)
      have last := ours r (List.mem_append_right _ List.mem_cons_self)
      rw [after_concat, after_concat]
      exact ⟨(holds.stepUsers keyed r.op last).2, keyed.run r.op⟩

end

/-- Of a sequence of requests about users, each leaves the same rows in a database as in memory,
from any tables with unique keys. Each has the same answer in both, unless it is a stray update:
that is not found in the database, and in conflict in memory. -/
theorem users_agree {t : Tables} {e : Engine} (keyed : UsersKeyed t) (holds : Holds e t)
    {rs : List Request} (ours : ∀ r ∈ rs, r.isOnUsers = true) {ran rest : List Request}
    {r : Request} (split : rs = ran ++ r :: rest) :
    let inDatabase := ((store engine).run r.op (after (store engine) e ran)).1
    let inMemory := (memory.run r.op (after memory t ran)).1
    (inDatabase = inMemory ↔ (after memory t ran).isStray r.op = false) ∧
    ((after memory t ran).isStray r.op = true →
      inDatabase = .error .notFound ∧ inMemory = .error .conflict) ∧
    Holds (after (store engine) e (ran ++ [r])) (after memory t (ran ++ [r])) := by
  intro inDatabase inMemory
  subst split
  obtain ⟨holds, keyed⟩ := holds.runUsers keyed fun q hq => ours q (List.mem_append_left _ hq)
  have last := ours r (List.mem_append_right _ List.mem_cons_self)
  obtain ⟨answer, rows⟩ := holds.stepUsers keyed r.op last
  rw [after_concat, after_concat]
  cases stray : (after memory t ran).isStray r.op with
  | false =>
      rw [stray] at answer
      exact ⟨iff_of_true answer rfl, nofun, rows⟩
  | true =>
      rw [stray] at answer
      have conflict : inMemory = .error .conflict := congrArg Prod.fst (run_of_isStray stray)
      have missing : inDatabase = .error .notFound := answer
      refine ⟨iff_of_false ?_ Bool.false_ne_true.symm, fun _ => ⟨missing, conflict⟩, rows⟩
      rw [missing, conflict]
      simp

/-- A user is updated to an address that another has: both stores tell of a conflict. -/
theorem users_agree_taken :
    let v : User := ⟨⟨1⟩, "a@b.cd", "", .user, ⟨0, 0⟩, ⟨0, 0⟩⟩
    let w : User := ⟨⟨2⟩, "c@d.ef", "", .user, ⟨0, 0⟩, ⟨0, 0⟩⟩
    let creates : List Request := [⟨.createUser v⟩, ⟨.createUser w⟩]
    let update : Request := ⟨.updateUser { v with email := w.email } ⟨5, 0⟩⟩
    UsersKeyed {} ∧ Holds {} {} ∧ (∀ r ∈ creates ++ [update], r.isOnUsers = true) ∧
      ((store engine).run update.op (after (store engine) {} creates)).1
        = (memory.run update.op (after memory {} creates)).1 ∧
      (memory.run update.op (after memory {} creates)).1 = .error .conflict := by
  intro v w creates update
  have keyed : UsersKeyed {} := ⟨.nil, .nil⟩
  have holds : Holds {} {} := ⟨rfl, {}, .refl {}, rfl⟩
  have ours : ∀ r ∈ creates ++ [update], r.isOnUsers = true := by decide
  have known : (after memory {} creates).isStray update.op = false := by decide
  exact ⟨keyed, holds, ours, (users_agree keyed holds ours rfl).1.2 known, rfl⟩

/-- A user that is not there is updated to an address that another has. -/
theorem users_disagree_stray :
    let v : User := ⟨⟨1⟩, "a@b.cd", "", .user, ⟨0, 0⟩, ⟨0, 0⟩⟩
    let creates : List Request := [⟨.createUser v⟩]
    let update : Request := ⟨.updateUser { v with id := ⟨2⟩ } ⟨5, 0⟩⟩
    UsersKeyed {} ∧ Holds {} {} ∧ (∀ r ∈ creates ++ [update], r.isOnUsers = true) ∧
      ((store engine).run update.op (after (store engine) {} creates)).1
        ≠ (memory.run update.op (after memory {} creates)).1 := by
  intro v creates update
  have inDatabase : ((store engine).run update.op (after (store engine) {} creates)).1
      = .error .notFound := rfl
  have inMemory : (memory.run update.op (after memory {} creates)).1 = .error .conflict := rfl
  refine ⟨⟨.nil, .nil⟩, ⟨rfl, {}, .refl {}, rfl⟩, by decide, ?_⟩
  rw [inDatabase, inMemory]
  simp

end Gatehouse.Sql
