import Gatehouse.Sql.Row
import Gatehouse.Store.Op

/-!
The store in a database. Every request is one query, or one transaction of two. A write whose
condition no row meets answers that the record was not found, so of two requests that race for
one record the later one fails.
-/

namespace Gatehouse.Sql

open Account (User Session Reset)
open Store (Op)

def insertUser (u : User) : Query := ⟨.insert .users, ofUser u⟩

def insertSession (s : Session) : Query := ⟨.insert .sessions, ofSession s⟩

def insertReset (r : Reset) : Query := ⟨.insert .resets, ofReset r⟩

/-- The rows of a table whose column has a value. -/
def selectBy (table : Table) (column : Column) (value : Cell) : Query :=
  ⟨.select table (.every [.equals column 1]), [value]⟩

def deleteBy (table : Table) (column : Column) (value : Cell) : Query :=
  ⟨.delete table (.every [.equals column 1]), [value]⟩

def updateUser (u : User) (now : Timestamp) : Query :=
  ⟨.update .users [.email, .passwordHash, .role, .updatedAt] (.every [.equals .id 5]),
    [.text u.email, .text u.passwordHash, .text u.role.name, .time now, .uuid u.id]⟩

def setPassword (u : User) (at_ : Timestamp) : Query :=
  ⟨.update .users [.passwordHash, .updatedAt] (.every [.equals .id 3]),
    [.text u.passwordHash, .time at_, .uuid u.id]⟩

/-- Mark a reset as used that is not used yet. -/
def claim (id : Uuid) (at_ : Timestamp) : Query :=
  ⟨.update .resets [.usedAt] (.every [.equals .id 2, .isNull .usedAt]), [.time at_, .uuid id]⟩

/-- The same, if it is not expired either. -/
def claimUnexpired (id : Uuid) (at_ : Timestamp) : Query :=
  ⟨.update .resets [.usedAt] (.every [.equals .id 2, .isNull .usedAt, .notBefore .expiresAt 1]),
    [.time at_, .uuid id]⟩

def deleteExpiredSessions (now : Timestamp) : Query :=
  ⟨.delete .sessions (.every [.before .expiresAt 1]), [.time now]⟩

def deleteSpentResets (now : Timestamp) : Query :=
  ⟨.delete .resets (.some [.before .expiresAt 1, .isPresent .usedAt]), [.time now]⟩

variable {m : Type → Type} [Monad m]

/-- Run a query, whatever it changes. -/
def Server.run (s : Server m) (q : Query) : m (Except Store.Error Unit) := do
  return (← s.query q).map fun _ => ()

/-- Run a query and count what it changes. -/
def Server.tally (s : Server m) (q : Query) : m (Except Store.Error Nat) := do
  return (← s.query q).map fun r => r.affected

/-- Run a query and read the first row that it finds. -/
def Server.fetch {α : Type} (s : Server m) (q : Query) (read : Row → Except Store.Error α) :
    m (Except Store.Error α) := do
  match ← s.query q with
  | .error e => pure (.error e)
  | .ok r => pure ((r.first?.map read).getD (.error .notFound))

/-- One query after another, if the first one changes a row. -/
def Server.changeThen (s : Server m) (q : Query) (next : m (Except Store.Error Unit)) :
    m (Except Store.Error Unit) := do
  match ← s.change q with
  | .error e => pure (.error e)
  | .ok () => next

def perform (s : Server m) : {α : Type} → Op α → m (Except Store.Error α)
  | _, .createUser u => s.run (insertUser u)
  | _, .userById id => s.fetch (selectBy .users .id (.uuid id)) Row.user
  | _, .userByEmail email => s.fetch (selectBy .users .email (.text email)) Row.user
  | _, .updateUser u now => s.change (updateUser u now)
  | _, .createSession x => s.run (insertSession x)
  | _, .sessionById id => s.fetch (selectBy .sessions .id (.uuid id)) Row.session
  | _, .sessionByToken token =>
      s.fetch (selectBy .sessions .refreshToken (.text token)) Row.session
  | _, .deleteSession id => s.change (deleteBy .sessions .id (.uuid id))
  | _, .deleteUserSessions userId => s.tally (deleteBy .sessions .userId (.uuid userId))
  | _, .rotateSession old x =>
      s.transaction (s.changeThen (deleteBy .sessions .id (.uuid old)) (s.run (insertSession x)))
  | _, .deleteExpiredSessions now => s.tally (deleteExpiredSessions now)
  | _, .createReset r => s.run (insertReset r)
  | _, .resetByToken token => s.fetch (selectBy .resets .token (.text token)) Row.reset
  | _, .markResetUsed id at_ => s.change (claim id at_)
  | _, .consumeReset id u at_ =>
      s.transaction (s.changeThen (claimUnexpired id at_) (s.change (setPassword u at_)))
  | _, .deleteExpiredResets now => s.tally (deleteSpentResets now)

/-- The store behind a server. -/
def store (s : Server m) : Store m where
  run op := perform s op

/-- Does the server answer as it should? A failure counts as a wrong answer. -/
def Server.isHealthy (s : Server m) : m Bool := do
  match ← s.execute ⟨.probe, []⟩ with
  | .error _ => pure false
  | .ok r =>
      match r.first? with
      | some (((_, .integer), .integer n) :: _) => pure (n == 1)
      | _ => pure false

end Gatehouse.Sql
