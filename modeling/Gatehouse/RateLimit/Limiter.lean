import Gatehouse.Bounds
import Gatehouse.RateLimit.Counter

/-!
The limiter. Every admitted request adds a member scored with its time; a check first removes
the members that have left the window and refuses once the limit is reached. When the store
cannot be read the request is admitted, so an outage of the store never refuses anything.
-/

namespace Gatehouse.RateLimit

/-- How many requests are admitted in a window of how many seconds. -/
structure Limits where
  maxRequests : UInt64 := 100
  windowSeconds : UInt64 := 60
  deriving DecidableEq, Repr

/-- The bounds of times, in milliseconds. -/
def minTime : Int := Bounds.minSigned
def maxTime : Int := Bounds.maxSigned

/-- The nearest time within the bounds. -/
def clampTime (t : Int) : Int := max minTime (min maxTime t)

/-- The length of a window in milliseconds. -/
def Limits.windowMillis (l : Limits) : Int := clampTime (l.windowSeconds.toNat * 1000)

/-- A key lives a minute longer than its window. -/
def grace : UInt64 := 60

/-- A refusal: how many requests are in the window, and in how many seconds the oldest of
them leaves it. -/
structure Exceeded where
  current : Nat
  retryAfter : Nat
  deriving DecidableEq, Repr

def Exceeded.message (e : Exceeded) : String :=
  s!"rate limit exceeded ({e.current} requests in window)"

/-- Whole seconds, rounded up, until a member scored `oldest` leaves the window; at least
one. -/
def secondsUntil (oldest window now : Int) : Nat :=
  let rest := clampTime (clampTime (oldest + window) - now)
  if rest ≤ 0 then 1 else (rest.toNat + 999) / 1000

section
variable {m : Type → Type} [Monad m] {ε : Type}

/-- When to come back: a whole window when the store cannot tell. -/
def retryAfter (l : Limits) (store : Counter m ε) (key : String) (now : Int) : m Nat := do
  match ← store.earliest key with
  | .ok (some oldest) => pure (secondsUntil oldest l.windowMillis now)
  | _ => pure (max l.windowSeconds.toNat 1)

end

/-- The member that stands for a request; the suffix tells apart those of one time. -/
def memberName (now : Int) (suffix : String) : String := s!"{now}-{suffix}"

variable {m : Type → Type} [Monad m] [MonadExceptOf Panic m] {ε : Type}

/-- The seconds that a key lives. -/
def Limits.lifetime (l : Limits) : m UInt64 := addWords l.windowSeconds grace

/-- Count a request at a time. The answer is the number of requests in the window with this
one, or zero when the store could not be read. -/
def check (l : Limits) (store : Counter m ε) (key suffix : String) (now : Int) :
    m (Except Exceeded Nat) := do
  match ← store.evict key (clampTime (now - l.windowMillis)) with
  | .error _ => pure (.ok 0)
  | .ok _ =>
      match ← store.count key with
      | .error _ => pure (.ok 0)
      | .ok n =>
          if l.maxRequests.toNat ≤ n then
            let seconds ← retryAfter l store key now
            pure (.error ⟨n, seconds⟩)
          else
            let _ ← store.add key (memberName now suffix) now
            let seconds ← l.lifetime
            let _ ← store.expire key seconds
            pure (.ok (n + 1))

end Gatehouse.RateLimit
