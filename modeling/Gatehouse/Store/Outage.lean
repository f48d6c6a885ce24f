import Gatehouse.Store.Tables

/-!
Tables behind a connection that is lost at times. Every request is noted, with the error that
answered it; one that is lost has no effect.
-/

namespace Gatehouse.Store

/-- How a request is lost: the store is not reached, or the database fails. -/
inductive Outage where
  | unavailable (reason : String)
  | database (cause : DatabaseError)
  deriving DecidableEq, Repr

def Outage.error : Outage → Error
  | .unavailable reason => .unavailable reason
  | .database cause => .database cause

structure Call where
  method : Method
  failure : Option Error
  deriving DecidableEq, Repr

structure Watched where
  tables : Tables := {}
  calls : List Call := []
  deriving DecidableEq, Repr

def failureOf {α : Type} : Except Error α → Option Error
  | .ok _ => none
  | .error e => some e

/-- A store whose requests are noted. -/
def noted (store : Store (StateM Watched)) : Store (StateM Watched) where
  run op := do
    let answer ← store.run op
    modify fun w => { w with calls := w.calls ++ [⟨op.method, failureOf answer⟩] }
    pure answer

/-- The store in memory, of which requests are lost; which ones, is told by how many there were
before. -/
def unreliable (faults : Nat → Option Outage) : Store (StateM Watched) :=
  noted (intercept (fun _ => do return (faults (← get).calls.length).map Outage.error)
    (lift (fun x w => ((x w.tables).1, { w with tables := (x w.tables).2 })) memory))

end Gatehouse.Store
