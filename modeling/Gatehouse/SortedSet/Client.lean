import Gatehouse.RateLimit.Counter
import Gatehouse.SortedSet.Reply

/-!
A client of a server of sorted sets. Each call is one command; its reply is read at once. The
client serves the limiter as a store to count in.
-/

namespace Gatehouse.SortedSet

/-- A connection sends a command, word by word, and waits for the reply. None comes when the
connection is gone. -/
structure Connection (m : Type → Type) where
  send : List String → m (Option Reply)

/-- Read a reply: its error, the value that is wanted, or neither. -/
def Reply.read {α : Type} (want : Reply → Option α) : Option Reply → Except Fault α
  | none => .error .disconnected
  | some r =>
      match r.fault? with
      | some f => .error f
      | none =>
          match want r with
          | some a => .ok a
          | none => .error .mistyped

namespace Connection

variable {m : Type → Type} [Monad m]

/-- Send a command and read its reply. -/
def ask {α : Type} (c : Connection m) (want : Reply → Option α) (command : List String) :
    m (Except Fault α) := do
  return Reply.read want (← c.send command)

/-- Send a command whose result is read and dropped. -/
def tell {α : Type} (c : Connection m) (want : Reply → Option α) (command : List String) :
    m (Except Fault Unit) := do
  return (← c.ask want command).map fun _ => ()

def delete (c : Connection m) (key : String) : m (Except Fault Unit) :=
  c.tell Reply.unsigned? ["DEL", key]

def add (c : Connection m) (key member : String) (score : Int) : m (Except Fault Unit) :=
  c.tell Reply.signed? ["ZADD", key, toString score, member]

/-- Remove the members scored at most so much, and count them. -/
def evict (c : Connection m) (key : String) (upTo : Int) : m (Except Fault Nat) :=
  c.ask Reply.unsigned? ["ZREMRANGEBYSCORE", key, "-inf", toString upTo]

def count (c : Connection m) (key : String) : m (Except Fault Nat) :=
  c.ask Reply.unsigned? ["ZCARD", key]

/-- The lowest score under a key. -/
def earliest (c : Connection m) (key : String) : m (Except Fault (Option Int)) := do
  let scores ← c.ask Reply.scores? ["ZRANGE", key, "0", "0", "WITHSCORES"]
  return scores.map fun ss => ss.head?.map fun s => Decimal.truncate s.2

/-- Let a key live for so many seconds from now. -/
def expire (c : Connection m) (key : String) (seconds : UInt64) : m (Except Fault Unit) :=
  c.tell Reply.signed? ["EXPIRE", key, toString seconds.toNat]

/-- Does the server answer as it should? -/
def isHealthy (c : Connection m) : m (Except Fault Bool) := do
  return (← c.ask Reply.text? ["PING"]).map (· == "PONG")

/-- The server as a store to count in. -/
def counter (c : Connection m) : RateLimit.Counter m Fault where
  evict := c.evict
  count := c.count
  add := c.add
  expire := c.expire
  earliest := c.earliest

end Connection
end Gatehouse.SortedSet
