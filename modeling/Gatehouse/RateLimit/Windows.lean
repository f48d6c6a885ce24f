/-!
Windows of scored members under keys, kept in memory. A member stands once in its window. A
window is gone once its last member is removed, and it is not seen once its deadline has been
reached. Instants are milliseconds of a clock that never goes back.
-/

namespace Gatehouse.RateLimit

structure Window where
  entries : List (String × Int) := []
  deadline : Option Nat := none
  deriving DecidableEq, Repr

/-- A window that is seen at an instant. -/
def Window.isLive (w : Window) (now : Nat) : Bool :=
  !w.entries.isEmpty && w.deadline.all fun d => now < d

/-- Give a member a score; a new member goes to the end. -/
def putEntry (member : String) (score : Int) : List (String × Int) → List (String × Int)
  | [] => [(member, score)]
  | (m, s) :: rest =>
      if m = member then (member, score) :: rest else (m, s) :: putEntry member score rest

def lowestScore (entries : List (String × Int)) : Option Int := (entries.map (·.2)).min?

/-- Every key stands at most once. -/
abbrev Windows := List (String × Window)

namespace Windows

def get? (ws : Windows) (key : String) : Option Window := ws.lookup key

def erase (ws : Windows) (key : String) : Windows := ws.filter fun p => p.1 ≠ key

def put (ws : Windows) (key : String) (w : Window) : Windows := (key, w) :: ws.erase key

/-- The window of a key that is seen at an instant. -/
def live? (ws : Windows) (now : Nat) (key : String) : Option Window :=
  (ws.get? key).filter (·.isLive now)

/-- Remove the members scored at most `upTo`, and count them. The deadline of the window is
not looked at. -/
def evict (ws : Windows) (key : String) (upTo : Int) : Nat × Windows :=
  match ws.get? key with
  | none => (0, ws)
  | some w =>
      let kept := w.entries.filter fun e => upTo < e.2
      let removed := w.entries.length - kept.length
      if kept.isEmpty then (removed, ws.erase key)
      else (removed, ws.put key { w with entries := kept })

/-- How many members a key has. -/
def count (ws : Windows) (now : Nat) (key : String) : Nat :=
  ((ws.live? now key).map (·.entries.length)).getD 0

/-- Add a member. Windows that are not seen any more are dropped first. -/
def add (ws : Windows) (now : Nat) (key member : String) (score : Int) : Windows :=
  let ws : Windows := ws.filter fun p => p.2.isLive now
  let w := (ws.get? key).getD {}
  ws.put key { w with entries := putEntry member score w.entries }

/-- Set the deadline of a window, if there is one. -/
def setDeadline (ws : Windows) (key : String) (deadline : Nat) : Windows :=
  match ws.get? key with
  | none => ws
  | some w => ws.put key { w with deadline := some deadline }

/-- The lowest score under a key. -/
def earliest (ws : Windows) (now : Nat) (key : String) : Option Int :=
  (ws.live? now key).bind fun w => lowestScore w.entries

/-- How many keys are seen. -/
def keyCount (ws : Windows) (now : Nat) : Nat := (ws.filter fun p => p.2.isLive now).length

end Windows
end Gatehouse.RateLimit
