import Gatehouse.Proofs.UserAgreement

/-!
The tables in memory as maps, whose keys are what rows are found, changed and removed by. Maps
that start empty hold every row under its own identifier, so they answer what tables answer that
are lists of rows, and hold the same rows.
-/

namespace Gatehouse.Store

open Account (User Session Reset)
open Sql (Request after)
open Tables (isClaimable updated rehashed)

/-- A map from identifiers to rows. -/
abbrev RowMap (α : Type) := List (Uuid × α)

namespace RowMap

section
variable {α : Type} (m : RowMap α) (id : Uuid)

def values : List α := m.map (·.2)

def get? : Option α := (m.find? (·.1 = id)).map (·.2)

def contains : Bool := (m.get? id).isSome

def remove : RowMap α := m.filter (·.1 ≠ id)

/-- Put a row under a key, in the place of the one that is there. -/
def insert (a : α) : RowMap α := m.remove id ++ [(id, a)]

def modify (f : α → α) : RowMap α := m.map fun e => if e.1 = id then (e.1, f e.2) else e

def retain (keep : α → Bool) : RowMap α := m.filter fun e => keep e.2

/-- How many rows are not retained. -/
def dropped (keep : α → Bool) : Nat := m.length - (m.retain keep).length

end

section
variable {α : Type} (key : α → Uuid) (xs : List α)

/-- The map that has every row under its own key. -/
def ofRows : RowMap α := xs.map fun a => (key a, a)

theorem values_ofRows : (ofRows key xs).values = xs := by
  rw [values, ofRows, List.map_map]
  exact List.map_id xs

theorem get?_ofRows (id : Uuid) : (ofRows key xs).get? id = xs.find? (key · = id) := by
  rw [get?, ofRows, List.find?_map, Option.map_map]
  exact Option.map_id_apply

theorem retain_ofRows (keep : α → Bool) :
    (ofRows key xs).retain keep = ofRows key (xs.filter keep) := List.filter_map ..

theorem dropped_ofRows (keep : α → Bool) :
    (ofRows key xs).dropped keep = (xs.filter fun a => !keep a).length := by
  rw [dropped, retain_ofRows, ofRows, ofRows, List.length_map, List.length_map,
    List.length_eq_length_filter_add keep, Nat.add_sub_cancel_left]

theorem remove_ofRows (id : Uuid) :
    (ofRows key xs).remove id = ofRows key (xs.filter (key · ≠ id)) := List.filter_map ..

theorem insert_ofRows (a : α) :
    (ofRows key xs).insert (key a) a = ofRows key (xs.filter (key · ≠ key a) ++ [a]) := by
  rw [insert, remove_ofRows, ofRows, ofRows, List.map_append]
  rfl

/-- A row whose key is new comes after the others. -/
theorem insert_ofRows_of_new {a : α} (new : xs.find? (key · = key a) = none) :
    (ofRows key xs).insert (key a) a = ofRows key (xs ++ [a]) := by
  have others : xs.filter (key · ≠ key a) = xs :=
    List.filter_eq_self.2 fun b hb => by simpa using List.find?_eq_none.1 new b hb
  rw [insert_ofRows, others]

theorem modify_ofRows (id : Uuid) {f : α → α} (keeps : ∀ a, key (f a) = key a) :
    (ofRows key xs).modify id f = ofRows key (xs.map fun a => if key a = id then f a else a) := by
  rw [modify, ofRows, ofRows, List.map_map, List.map_map]
  refine List.map_congr_left fun a _ => ?_
  simp only [Function.comp_apply]
  split
  · rw [keeps]
  · rfl

end

end RowMap

/-- The tables in memory, with the keys of the rows. -/
structure Maps where
  users : RowMap User := []
  sessions : RowMap Session := []
  resets : RowMap Reset := []

namespace Maps

/-- Every row under its own identifier. -/
def ofTables (t : Tables) : Maps where
  users := .ofRows User.id t.users
  sessions := .ofRows Session.id t.sessions
  resets := .ofRows Reset.id t.resets

abbrev Outcome (α : Type) := Except Error α × Maps

section
variable (m : Maps)

def orNotFound {α : Type} (row : Option α) : Outcome α :=
  (row.elim (.error .notFound) .ok, m)

def createUser (u : User) : Outcome Unit :=
  if m.users.contains u.id || m.users.values.any (·.email = u.email) then (.error .conflict, m)
  else (.ok (), { m with users := m.users.insert u.id u })

def updateUser (u : User) (now : Timestamp) : Outcome Unit :=
  if m.users.values.any fun v => v.id ≠ u.id && v.email = u.email then (.error .conflict, m)
  else if m.users.contains u.id then
    (.ok (), { m with users := m.users.modify u.id (updated u now) })
  else (.error .notFound, m)

def createSession (s : Session) : Outcome Unit :=
  if m.sessions.contains s.id then (.error .conflict, m)
  else (.ok (), { m with sessions := m.sessions.insert s.id s })

def deleteSession (id : Uuid) : Outcome Unit :=
  if m.sessions.contains id then (.ok (), { m with sessions := m.sessions.remove id })
  else (.error .notFound, m)

def retainSessions (keep : Session → Bool) : Outcome Nat :=
  (.ok (m.sessions.dropped keep), { m with sessions := m.sessions.retain keep })

def rotateSession (old : Uuid) (s : Session) : Outcome Unit :=
  if !m.sessions.contains old then (.error .notFound, m)
  else if s.id ≠ old && m.sessions.contains s.id then (.error .conflict, m)
  else (.ok (), { m with sessions := (m.sessions.remove old).insert s.id s })

def createReset (r : Reset) : Outcome Unit :=
  if m.resets.contains r.id || m.resets.values.any (·.token = r.token) then (.error .conflict, m)
  else (.ok (), { m with resets := m.resets.insert r.id r })

def markResetUsed (id : Uuid) (at_ : Timestamp) : Outcome Unit :=
  if (m.resets.get? id).any fun r => !r.isUsed then
    (.ok (), { m with resets := m.resets.modify id fun r => { r with usedAt := some at_ } })
  else (.error .notFound, m)

def consumeReset (id : Uuid) (u : User) (at_ : Timestamp) : Outcome Unit :=
  if !(m.resets.get? id).any (isClaimable · at_) || !m.users.contains u.id then
    (.error .notFound, m)
  else
    (.ok (), { m with
      users := m.users.modify u.id (rehashed u at_)
      resets := m.resets.modify id fun r => { r with usedAt := some at_ } })

def deleteExpiredResets (now : Timestamp) : Outcome Nat :=
  let keep (r : Reset) : Bool := !r.isExpired now && !r.isUsed
  (.ok (m.resets.dropped keep), { m with resets := m.resets.retain keep })

end

/-- What a request to the maps gives, and the maps behind it. -/
def run : {α : Type} → Op α → Maps → Outcome α
  | _, .createUser u, m => m.createUser u
  | _, .userById id, m => m.orNotFound (m.users.get? id)
  | _, .userByEmail email, m => m.orNotFound (m.users.values.find? (·.email = email))
  | _, .updateUser u now, m => m.updateUser u now
  | _, .createSession s, m => m.createSession s
  | _, .sessionById id, m => m.orNotFound (m.sessions.get? id)
  | _, .sessionByToken token, m => m.orNotFound (m.sessions.values.find? (·.refreshToken = token))
  | _, .deleteSession id, m => m.deleteSession id
  | _, .deleteUserSessions userId, m => m.retainSessions (·.userId ≠ userId)
  | _, .rotateSession old s, m => m.rotateSession old s
  | _, .deleteExpiredSessions now, m => m.retainSessions (!·.isExpired now)
  | _, .createReset r, m => m.createReset r
  | _, .resetByToken token, m => m.orNotFound (m.resets.values.find? (·.token = token))
  | _, .markResetUsed id at_, m => m.markResetUsed id at_
  | _, .consumeReset id u at_, m => m.consumeReset id u at_
  | _, .deleteExpiredResets now, m => m.deleteExpiredResets now

def store : Store (StateM Maps) where
  run op := Maps.run op

/-- What tables give, with every row under its own identifier. -/
def ofOutcome {α : Type} (o : Tables.Outcome α) : Outcome α := (o.1, ofTables o.2)

section
variable (t : Tables) (id : Uuid)

theorem get?_users : (ofTables t).users.get? id = t.user? id := RowMap.get?_ofRows ..

theorem get?_sessions : (ofTables t).sessions.get? id = t.session? id := RowMap.get?_ofRows ..

theorem get?_resets : (ofTables t).resets.get? id = t.reset? id := RowMap.get?_ofRows ..

theorem values_users : (ofTables t).users.values = t.users := RowMap.values_ofRows ..

theorem values_sessions : (ofTables t).sessions.values = t.sessions := RowMap.values_ofRows ..

theorem values_resets : (ofTables t).resets.values = t.resets := RowMap.values_ofRows ..

theorem insert_user {u : User} (new : t.user? u.id = none) :
    (ofTables t).users.insert u.id u = .ofRows User.id (t.users ++ [u]) :=
  RowMap.insert_ofRows_of_new User.id t.users new

theorem insert_session {x : Session} (new : t.session? x.id = none) :
    (ofTables t).sessions.insert x.id x = .ofRows Session.id (t.sessions ++ [x]) :=
  RowMap.insert_ofRows_of_new Session.id t.sessions new

theorem insert_reset {r : Reset} (new : t.reset? r.id = none) :
    (ofTables t).resets.insert r.id r = .ofRows Reset.id (t.resets ++ [r]) :=
  RowMap.insert_ofRows_of_new Reset.id t.resets new

theorem modify_user {f : User → User} (keeps : ∀ v, (f v).id = v.id) :
    (ofTables t).users.modify id f = .ofRows User.id (t.changeUser id f).users :=
  RowMap.modify_ofRows User.id t.users id keeps

theorem modify_reset (at_ : Timestamp) :
    ((ofTables t).resets.modify id fun r => { r with usedAt := some at_ })
      = .ofRows Reset.id (t.stampReset id at_).resets :=
  RowMap.modify_ofRows Reset.id t.resets id (f := ({ · with usedAt := some at_ })) fun _ => rfl

theorem remove_session :
    (ofTables t).sessions.remove id = .ofRows Session.id (t.sessions.filter (·.id ≠ id)) :=
  RowMap.remove_ofRows Session.id t.sessions id

theorem orNotFound_ofTables {α : Type} (row : Option α) :
    (ofTables t).orNotFound row = ofOutcome (Tables.orNotFound row t) := by
  cases row <;> rfl

theorem createUser_ofTables (u : User) :
    (ofTables t).createUser u = ofOutcome (Tables.createUser u t) := by
  rw [createUser, Tables.createUser, RowMap.contains, get?_users, values_users, Tables.userOf?,
    List.isSome_find?]
  cases new : t.user? u.id with
  | some v => rfl
  | none =>
      rw [insert_user t new]
      cases t.users.any (·.email = u.email) <;> rfl

theorem updateUser_ofTables (u : User) (now : Timestamp) :
    (ofTables t).updateUser u now = ofOutcome (Tables.updateUser u now t) := by
  rw [updateUser, Tables.updateUser, values_users, RowMap.contains, get?_users,
    modify_user t u.id (f := updated u now) fun _ => rfl]
  split
  · rfl
  · cases t.user? u.id <;> rfl

theorem createSession_ofTables (x : Session) :
    (ofTables t).createSession x = ofOutcome (Tables.createSession x t) := by
  rw [createSession, Tables.createSession, RowMap.contains, get?_sessions]
  cases new : t.session? x.id with
  | some y => rfl
  | none =>
      rw [insert_session t new]
      rfl

theorem deleteSession_ofTables :
    (ofTables t).deleteSession id = ofOutcome (Tables.deleteSession id t) := by
  rw [deleteSession, Tables.deleteSession, RowMap.contains, get?_sessions, remove_session]
  cases t.session? id <;> rfl

theorem retainSessions_ofTables (keep : Session → Bool) :
    (ofTables t).retainSessions keep = ofOutcome (Tables.keepSessions keep t) := by
  rw [retainSessions, ofTables, RowMap.dropped_ofRows, RowMap.retain_ofRows]
  rfl

theorem rotateSession_ofTables (x : Session) :
    (ofTables t).rotateSession id x = ofOutcome (Tables.rotateSession id x t) := by
  rw [rotateSession, Tables.rotateSession, RowMap.contains, get?_sessions, RowMap.contains,
    get?_sessions, remove_session]
  cases t.session? id with
  | none => rfl
  | some y =>
      by_cases clash : (decide (x.id ≠ id) && (t.session? x.id).isSome) = true
      · simp only [clash]
        rfl
      · have free : (t.sessions.filter (·.id ≠ id)).find? (·.id = x.id) = none := by
          refine List.find?_eq_none.2 fun z hz same => clash ?_
          obtain ⟨hz, other⟩ := List.mem_filter.1 hz
          have own : z.id = x.id := of_decide_eq_true same
          rw [← own, other]
          exact List.find?_isSome.2 ⟨z, hz, decide_eq_true rfl⟩
        rw [RowMap.insert_ofRows_of_new Session.id _ free, if_neg clash, if_neg clash]
        rfl

theorem createReset_ofTables (r : Reset) :
    (ofTables t).createReset r = ofOutcome (Tables.createReset r t) := by
  rw [createReset, Tables.createReset, RowMap.contains, get?_resets, values_resets,
    Tables.resetOf?, List.isSome_find?]
  cases new : t.reset? r.id with
  | some q => rfl
  | none =>
      rw [insert_reset t new]
      cases t.resets.any (·.token = r.token) <;> rfl

theorem markResetUsed_ofTables (at_ : Timestamp) :
    (ofTables t).markResetUsed id at_ = ofOutcome (Tables.markResetUsed id at_ t) := by
  rw [markResetUsed, Tables.markResetUsed, get?_resets, modify_reset]
  cases t.reset? id with
  | none => rfl
  | some r =>
      change (if !r.isUsed then _ else _) = ofOutcome (if r.isUsed then _ else _)
      cases r.isUsed <;> rfl

theorem consumeReset_ofTables (u : User) (at_ : Timestamp) :
    (ofTables t).consumeReset id u at_ = ofOutcome (Tables.consumeReset id u at_ t) := by
  rw [consumeReset, Tables.consumeReset, get?_resets, RowMap.contains, get?_users, modify_reset,
    modify_user t u.id (f := rehashed u at_) fun _ => rfl]
  cases t.reset? id with
  | none => rfl
  | some r =>
      change (if !isClaimable r at_ || _ then _ else _)
        = ofOutcome (if isClaimable r at_ && _ then _ else _)
      cases isClaimable r at_ <;> cases t.user? u.id <;> rfl

theorem deleteExpiredResets_ofTables (now : Timestamp) :
    (ofTables t).deleteExpiredResets now = ofOutcome (Tables.deleteExpiredResets now t) := by
  have same : (fun r : Reset => !r.isExpired now && !r.isUsed) = (isClaimable · now) :=
    funext fun r => Bool.and_comm ..
  rw [deleteExpiredResets, same, ofTables, RowMap.dropped_ofRows, RowMap.retain_ofRows]
  rfl

end

theorem run_ofTables (t : Tables) {α : Type} (op : Op α) :
    run op (ofTables t) = ofOutcome (Tables.run op t) := by
  cases op with
  | createUser u => exact createUser_ofTables t u
  | userById id => rw [run, get?_users, orNotFound_ofTables, Tables.run]
  | userByEmail email => rw [run, values_users, orNotFound_ofTables, Tables.run, Tables.userOf?]
  | updateUser u now => exact updateUser_ofTables t u now
  | createSession x => exact createSession_ofTables t x
  | sessionById id => rw [run, get?_sessions, orNotFound_ofTables, Tables.run]
  | sessionByToken token =>
      rw [run, values_sessions, orNotFound_ofTables, Tables.run, Tables.sessionOf?]
  | deleteSession id => exact deleteSession_ofTables t id
  | deleteUserSessions userId => exact retainSessions_ofTables t (·.userId ≠ userId)
  | rotateSession old x => exact rotateSession_ofTables t old x
  | deleteExpiredSessions now => exact retainSessions_ofTables t (!·.isExpired now)
  | createReset r => exact createReset_ofTables t r
  | resetByToken token =>
      rw [run, values_resets, orNotFound_ofTables, Tables.run, Tables.resetOf?]
  | markResetUsed id at_ => exact markResetUsed_ofTables t id at_
  | consumeReset id u at_ => exact consumeReset_ofTables t id u at_
  | deleteExpiredResets now => exact deleteExpiredResets_ofTables t now

/-- Maps and tables that are asked the same hold the same rows. -/
theorem after_ofTables (t : Tables) (rs : List Request) :
    after store (ofTables t) rs = ofTables (after memory t rs) := by
  induction rs generalizing t with
  | nil => rfl
  | cons r rs ih =>
      have step : (store.run r.op (ofTables t)).2 = ofTables (memory.run r.op t).2 :=
        congrArg Prod.snd (run_ofTables t r.op)
      rw [after, List.foldl_cons, step]
      exact ih _

end Maps

end Gatehouse.Store
