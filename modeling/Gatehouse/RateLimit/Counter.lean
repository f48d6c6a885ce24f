import Gatehouse.Panic
import Gatehouse.RateLimit.Windows

/-!
What the limiter needs of the store it counts in, the store in memory, and stores whose calls
may fail.
-/

namespace Gatehouse.RateLimit

/-- A store of scored members under keys. Every call may fail. -/
structure Counter (m : Type → Type) (ε : Type) where
  /-- Remove the members scored at most so much, and count them. -/
  evict : String → Int → m (Except ε Nat)
  count : String → m (Except ε Nat)
  add : String → String → Int → m (Except ε Unit)
  /-- Let a key live for so many seconds from now. -/
  expire : String → UInt64 → m (Except ε Unit)
  /-- The lowest score under a key. -/
  earliest : String → m (Except ε (Option Int))

/-- A call of the store. -/
inductive Call where
  | evict (key : String) (upTo : Int)
  | count (key : String)
  | add (key member : String) (score : Int)
  | expire (key : String) (seconds : UInt64)
  | earliest (key : String)
  deriving DecidableEq, Repr

variable {m : Type → Type} [Monad m] {ε : Type}

/-- Run a call unless it is refused. -/
def attempt {α : Type} (refused : Option ε) (call : m (Except ε α)) : m (Except ε α) :=
  match refused with
  | some e => pure (.error e)
  | none => call

/-- A store before whose calls something is asked: a call that is refused has no effect. -/
def Counter.intercept (ask : Call → m (Option ε)) (c : Counter m ε) : Counter m ε where
  evict key upTo := do attempt (← ask (.evict key upTo)) (c.evict key upTo)
  count key := do attempt (← ask (.count key)) (c.count key)
  add key member score := do attempt (← ask (.add key member score)) (c.add key member score)
  expire key seconds := do attempt (← ask (.expire key seconds)) (c.expire key seconds)
  earliest key := do attempt (← ask (.earliest key)) (c.earliest key)

/-- The latest instant of the clock. -/
def maxInstant : Nat := 0x7FFFFFFFFFFFFFFF * 1000 + 999

/-- The instant so many seconds from now, if the clock can tell it. -/
def deadline? (now : Nat) (seconds : UInt64) : Option Nat :=
  let d := now + seconds.toNat * 1000
  if d ≤ maxInstant then some d else none

/-- Windows in memory at an instant. -/
def memory (now : Nat) : Counter (PanicM Windows) ε where
  evict key upTo := fun ws => let (n, ws) := ws.evict key upTo; (.ok (.ok n), ws)
  count key := fun ws => (.ok (.ok (ws.count now key)), ws)
  add key member score := fun ws => (.ok (.ok ()), ws.add now key member score)
  expire key seconds := fun ws =>
    -- the deadline is computed only for a key that is stored
    match ws.get? key, deadline? now seconds with
    | some _, none => (.error .instant, ws)
    | some _, some d => (.ok (.ok ()), ws.setDeadline key d)
    | none, _ => (.ok (.ok ()), ws)
  earliest key := fun ws => (.ok (.ok (ws.earliest now key)), ws)

/-- The same store inside a larger state. -/
def Counter.lift {n : Type → Type} (f : {α : Type} → m α → n α) (c : Counter m ε) :
    Counter n ε where
  evict key upTo := f (c.evict key upTo)
  count key := f (c.count key)
  add key member score := f (c.add key member score)
  expire key seconds := f (c.expire key seconds)
  earliest key := f (c.earliest key)

end Gatehouse.RateLimit
