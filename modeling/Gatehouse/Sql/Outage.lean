import Gatehouse.Sql.Engine

/-!
A server that some statements fail to reach. Queries are statements, and so are the beginning
and the end of a transaction; one that fails changes nothing. A transaction that is left open
is rolled back all the same.
-/

namespace Gatehouse.Sql

open Store (Failure)

/-- The server, how many statements it was given, and whether one of these failed. -/
structure Connection where
  engine : Engine := {}
  statements : Nat := 0
  failed : Bool := false
  deriving DecidableEq, Repr

/-- Give the server a statement, unless the one of that number is lost. -/
def attempt {α : Type} (faults : Nat → Option Failure)
    (statement : StateM Engine (Except Failure α)) :
    StateM Connection (Except Failure α) := fun c =>
  match faults c.statements with
  | some f => (.error f, ⟨c.engine, c.statements + 1, true⟩)
  | none =>
      match statement c.engine with
      | (.ok a, e) => (.ok a, ⟨e, c.statements + 1, c.failed⟩)
      | (.error f, e) => (.error f, ⟨e, c.statements + 1, true⟩)

def faulty (faults : Nat → Option Failure) : Server (StateM Connection) where
  execute q := attempt faults (engine.execute q)
  start := attempt faults engine.start
  commit := attempt faults engine.commit
  rollback := fun c => ((), { c with engine := (engine.rollback c.engine).2 })

end Gatehouse.Sql
