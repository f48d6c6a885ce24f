import Gatehouse.RateLimit.Limiter

/-!
Windows in memory behind a connection that is lost at times. Every call is noted; one that is
lost has no effect.
-/

namespace Gatehouse.RateLimit

structure Noted where
  windows : Windows := []
  calls : List Call := []
  deriving DecidableEq, Repr

/-- Done in the windows. -/
def onWindows {α : Type} (x : PanicM Windows α) : PanicM Noted α := fun s =>
  ((x s.windows).1, { s with windows := (x s.windows).2 })

/-- The store in memory, of which calls are lost. -/
def unreliable {ε : Type} (instant : Nat) (lost : Call → Option ε) : Counter (PanicM Noted) ε :=
  ((memory instant).lift onWindows).intercept
    fun call s => (.ok (lost call), { s with calls := s.calls ++ [call] })

end Gatehouse.RateLimit
