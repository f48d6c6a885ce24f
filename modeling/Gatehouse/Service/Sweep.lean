import Gatehouse.Store.Op

/-!
The sweep of expired sessions and resets. A part that fails is skipped.
-/

namespace Gatehouse.Service

/-- How many records a sweep removed. -/
structure SweepReport where
  sessions : Nat
  resets : Nat
  deriving DecidableEq, Repr

/-- How many records a request removed; none if it failed. -/
def removed (r : Except Store.Error Nat) : Nat :=
  match r with
  | .ok n => n
  | .error _ => 0

/-- Remove what expired before a time. -/
def sweep {m : Type → Type} [Monad m] (store : Store m) (now : Timestamp) : m SweepReport := do
  let sessions ← store.run (.deleteExpiredSessions now)
  let resets ← store.run (.deleteExpiredResets now)
  pure ⟨removed sessions, removed resets⟩

end Gatehouse.Service
