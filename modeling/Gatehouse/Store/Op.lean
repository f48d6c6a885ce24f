import Gatehouse.Account.Records
import Gatehouse.Store.Error

/-!
What a store of users, sessions and resets can be asked, and stores as what answers. A store
runs in a monad: one in memory changes tables, one in a database talks to a server.
-/

namespace Gatehouse.Store

open Account (User Session Reset)

/-- A request to a store, with the type of what it returns. -/
inductive Op : Type → Type where
  /-- Add a user whose identifier and address are new. -/
  | createUser (user : User) : Op Unit
  | userById (id : Uuid) : Op User
  | userByEmail (email : String) : Op User
  /-- Replace address, digest and role of a stored user. -/
  | updateUser (user : User) (now : Timestamp) : Op Unit
  | createSession (session : Session) : Op Unit
  | sessionById (id : Uuid) : Op Session
  | sessionByToken (token : String) : Op Session
  | deleteSession (id : Uuid) : Op Unit
  /-- Delete every session of a user, and count them. -/
  | deleteUserSessions (userId : Uuid) : Op Nat
  /-- Replace a session that is still there by a new one. -/
  | rotateSession (old : Uuid) (session : Session) : Op Unit
  /-- Delete the sessions that expired before a time, and count them. -/
  | deleteExpiredSessions (now : Timestamp) : Op Nat
  | createReset (reset : Reset) : Op Unit
  | resetByToken (token : String) : Op Reset
  /-- Mark a reset as used that is not used yet. -/
  | markResetUsed (id : Uuid) (at_ : Timestamp) : Op Unit
  /-- Mark a reset as used that is neither used nor expired, and give its user the digest of
  a new password. -/
  | consumeReset (id : Uuid) (user : User) (at_ : Timestamp) : Op Unit
  /-- Delete the resets that expired before a time or are used, and count them. -/
  | deleteExpiredResets (now : Timestamp) : Op Nat

/-- The requests without what they carry. -/
inductive Method where
  | createUser | userById | userByEmail | updateUser
  | createSession | sessionById | sessionByToken | deleteSession | deleteUserSessions
  | rotateSession | deleteExpiredSessions
  | createReset | resetByToken | markResetUsed | consumeReset | deleteExpiredResets
  deriving DecidableEq, Repr

def Op.method {α : Type} : Op α → Method
  | .createUser _ => .createUser
  | .userById _ => .userById
  | .userByEmail _ => .userByEmail
  | .updateUser .. => .updateUser
  | .createSession _ => .createSession
  | .sessionById _ => .sessionById
  | .sessionByToken _ => .sessionByToken
  | .deleteSession _ => .deleteSession
  | .deleteUserSessions _ => .deleteUserSessions
  | .rotateSession .. => .rotateSession
  | .deleteExpiredSessions _ => .deleteExpiredSessions
  | .createReset _ => .createReset
  | .resetByToken _ => .resetByToken
  | .markResetUsed .. => .markResetUsed
  | .consumeReset .. => .consumeReset
  | .deleteExpiredResets _ => .deleteExpiredResets

end Gatehouse.Store

namespace Gatehouse

/-- A store answers every request, or says why not. -/
structure Store (m : Type → Type) where
  run : {α : Type} → Store.Op α → m (Except Store.Error α)

section
variable {σ α β : Type} (s : σ)

theorem bind_apply (x : StateM σ α) (f : α → StateM σ β) : (x >>= f) s = f (x s).1 (x s).2 := rfl

theorem pure_apply (a : α) : (pure a : StateM σ α) s = (a, s) := rfl

theorem get_apply : (get : StateM σ σ) s = (s, s) := rfl

end

end Gatehouse

namespace Gatehouse.Store

variable {m : Type → Type} [Monad m]

/-- A store before which something else is asked: a request that is refused has no effect. -/
def intercept (ask : Method → m (Option Error)) (store : Store m) : Store m where
  run op := do
    match ← ask op.method with
    | some e => pure (.error e)
    | none => store.run op

/-- The same store inside a larger state. -/
def lift {n : Type → Type} (f : {α : Type} → m α → n α) (store : Store m) : Store n where
  run op := f (store.run op)

end Gatehouse.Store
