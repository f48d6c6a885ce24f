import Gatehouse.Sql.Statement
import Gatehouse.Store.Error

/-!
What a client of a database needs of the server: to run a query, and to begin and to end a
transaction. A transaction that was begun and did not commit is rolled back.
-/

namespace Gatehouse.Sql

open Store (Failure)

/-- The types that the server has for the columns of a result. -/
inductive ColumnType where
  | uuid | text | time | integer | bigInteger
  deriving DecidableEq, Repr

/-- The result of a query: how many rows it changed or found, and the rows found. -/
structure Result where
  affected : Nat
  columns : List (String × ColumnType) := []
  rows : List (List Cell) := []
  deriving DecidableEq, Repr

/-- The beginning of the year 2000. -/
def epoch : Timestamp := ⟨946684800, 0⟩

/-- A time as the server keeps it: in microseconds from the beginning of the year 2000, what
is left over dropped. -/
def kept (t : Timestamp) : Timestamp := epoch.afterMicros (t.microsSince epoch)

structure Server (m : Type → Type) where
  execute : Query → m (Except Failure Result)
  start : m (Except Failure Unit)
  commit : m (Except Failure Unit)
  rollback : m Unit

/-- The code by which a server tells that a row exists already. -/
def uniqueViolation : String := "23505"

/-- The failure that a server tells by a code and a message. -/
def refusal (code message : String) : Failure := .refused (code == uniqueViolation) message

variable {m : Type → Type} [Monad m]

/-- The server behind connections that have been closed. -/
def Server.closed : Server m where
  execute _ := pure (.error .closed)
  start := pure (.error .closed)
  commit := pure (.error .closed)
  rollback := pure ()

/-- Run a query; a failure becomes an answer of the store. -/
def Server.query (s : Server m) (q : Query) : m (Except Store.Error Result) := do
  match ← s.execute q with
  | .ok r => pure (.ok r)
  | .error f => pure (.error (.ofQuery f))

/-- Run a query that has to change a row. -/
def Server.change (s : Server m) (q : Query) : m (Except Store.Error Unit) := do
  match ← s.query q with
  | .ok r => pure (if r.affected = 0 then .error .notFound else .ok ())
  | .error e => pure (.error e)

/-- Do something in a transaction. -/
def Server.transaction (s : Server m) (body : m (Except Store.Error Unit)) :
    m (Except Store.Error Unit) := do
  match ← s.start with
  | .error f => pure (.error (.ofTransaction f))
  | .ok () =>
      match ← body with
      | .error e =>
          s.rollback
          pure (.error e)
      | .ok () =>
          match ← s.commit with
          | .ok () => pure (.ok ())
          | .error f =>
              s.rollback
              pure (.error (.ofTransaction f))

end Gatehouse.Sql
