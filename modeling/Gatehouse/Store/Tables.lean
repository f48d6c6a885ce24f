import Gatehouse.Store.Op

/-!
The store in memory: three tables, changed by one request at a time. Users are unique by
identifier and by address, sessions by identifier, resets by identifier and by token. A
request that is refused changes nothing.
-/

namespace Gatehouse.Store

open Account (User Session Reset)

structure Tables where
  users : List User := []
  sessions : List Session := []
  resets : List Reset := []
  deriving DecidableEq, Repr

namespace Tables

/-- What a request to tables gives, and the tables behind it. -/
abbrev Outcome (α : Type) := Except Error α × Tables

def orNotFound {α : Type} (row : Option α) (t : Tables) : Outcome α :=
  match row with
  | some a => (.ok a, t)
  | none => (.error .notFound, t)

def user? (t : Tables) (id : Uuid) : Option User := t.users.find? (·.id = id)

def userOf? (t : Tables) (email : String) : Option User := t.users.find? (·.email = email)

def session? (t : Tables) (id : Uuid) : Option Session := t.sessions.find? (·.id = id)

def sessionOf? (t : Tables) (token : String) : Option Session :=
  t.sessions.find? (·.refreshToken = token)

def reset? (t : Tables) (id : Uuid) : Option Reset := t.resets.find? (·.id = id)

def resetOf? (t : Tables) (token : String) : Option Reset := t.resets.find? (·.token = token)

def sessionCount (t : Tables) (userId : Uuid) : Nat :=
  (t.sessions.filter (·.userId = userId)).length

def createUser (u : User) (t : Tables) : Outcome Unit :=
  if (t.user? u.id).isSome || (t.userOf? u.email).isSome then (.error .conflict, t)
  else (.ok (), { t with users := t.users ++ [u] })

/-- Change the user of an identifier. -/
def changeUser (t : Tables) (id : Uuid) (f : User → User) : Tables :=
  { t with users := t.users.map fun u => if u.id = id then f u else u }

def updateUser (u : User) (now : Timestamp) (t : Tables) : Outcome Unit :=
  if t.users.any fun v => v.id ≠ u.id && v.email = u.email then (.error .conflict, t)
  else if (t.user? u.id).isNone then (.error .notFound, t)
  else (.ok (), t.changeUser u.id fun v =>
    { v with email := u.email, passwordHash := u.passwordHash, role := u.role, updatedAt := now })

def createSession (s : Session) (t : Tables) : Outcome Unit :=
  if (t.session? s.id).isSome then (.error .conflict, t)
  else (.ok (), { t with sessions := t.sessions ++ [s] })

/-- Keep the sessions that pass a test, and count the others. -/
def keepSessions (keep : Session → Bool) (t : Tables) : Outcome Nat :=
  (.ok (t.sessions.filter fun s => !keep s).length,
    { t with sessions := t.sessions.filter keep })

def deleteSession (id : Uuid) (t : Tables) : Outcome Unit :=
  if (t.session? id).isNone then (.error .notFound, t)
  else (.ok (), { t with sessions := t.sessions.filter (·.id ≠ id) })

def rotateSession (old : Uuid) (s : Session) (t : Tables) : Outcome Unit :=
  if (t.session? old).isNone then (.error .notFound, t)
  else if s.id ≠ old && (t.session? s.id).isSome then (.error .conflict, t)
  else (.ok (), { t with sessions := t.sessions.filter (·.id ≠ old) ++ [s] })

def createReset (r : Reset) (t : Tables) : Outcome Unit :=
  if (t.reset? r.id).isSome || (t.resetOf? r.token).isSome then (.error .conflict, t)
  else (.ok (), { t with resets := t.resets ++ [r] })

/-- Set the time at which a reset was used. -/
def stampReset (t : Tables) (id : Uuid) (at_ : Timestamp) : Tables :=
  { t with resets := t.resets.map fun r => if r.id = id then { r with usedAt := some at_ } else r }

def markResetUsed (id : Uuid) (at_ : Timestamp) (t : Tables) : Outcome Unit :=
  match t.reset? id with
  | some r => if r.isUsed then (.error .notFound, t) else (.ok (), t.stampReset id at_)
  | none => (.error .notFound, t)

/-- A reset that may be consumed at a time. -/
def isClaimable (r : Reset) (at_ : Timestamp) : Bool := !r.isUsed && !r.isExpired at_

def consumeReset (id : Uuid) (u : User) (at_ : Timestamp) (t : Tables) : Outcome Unit :=
  match t.reset? id with
  | some r =>
      if isClaimable r at_ && (t.user? u.id).isSome then
        (.ok (), (t.stampReset id at_).changeUser u.id fun v =>
          { v with passwordHash := u.passwordHash, updatedAt := at_ })
      else (.error .notFound, t)
  | none => (.error .notFound, t)

/-- Keep the resets that may still be consumed, and count the others. -/
def deleteExpiredResets (now : Timestamp) (t : Tables) : Outcome Nat :=
  (.ok (t.resets.filter fun r => !isClaimable r now).length,
    { t with resets := t.resets.filter fun r => isClaimable r now })

def run : {α : Type} → Op α → Tables → Outcome α
  | _, .createUser u, t => createUser u t
  | _, .userById id, t => orNotFound (t.user? id) t
  | _, .userByEmail email, t => orNotFound (t.userOf? email) t
  | _, .updateUser u now, t => updateUser u now t
  | _, .createSession s, t => createSession s t
  | _, .sessionById id, t => orNotFound (t.session? id) t
  | _, .sessionByToken token, t => orNotFound (t.sessionOf? token) t
  | _, .deleteSession id, t => deleteSession id t
  | _, .deleteUserSessions userId, t => keepSessions (·.userId ≠ userId) t
  | _, .rotateSession old s, t => rotateSession old s t
  | _, .deleteExpiredSessions now, t => keepSessions (!·.isExpired now) t
  | _, .createReset r, t => createReset r t
  | _, .resetByToken token, t => orNotFound (t.resetOf? token) t
  | _, .markResetUsed id at_, t => markResetUsed id at_ t
  | _, .consumeReset id u at_, t => consumeReset id u at_ t
  | _, .deleteExpiredResets now, t => deleteExpiredResets now t

end Tables

/-- The store in memory. -/
def memory : Store (StateM Tables) where
  run op := Tables.run op

end Gatehouse.Store
