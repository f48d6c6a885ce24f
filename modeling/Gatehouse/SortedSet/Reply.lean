import Gatehouse.Bounds
import Gatehouse.Decimal.Reading

/-!
What a server of sorted sets replies, and what its replies are read as. Whole numbers have 64
bits: one that is wanted without a sign is taken modulo two to the sixty-fourth. An error in a
reply, or in a list that it holds, comes before anything else.
-/

namespace Gatehouse.SortedSet

inductive Reply where
  | integer (n : Int)
  | bulk (text : String)
  | simple (text : String)
  | nil
  | list (items : List Reply)
  | error (line : String)
  deriving Repr, Inhabited

/-- Why a server refuses a command, for the reasons that have a name of their own. -/
inductive Refusal where
  | command
  | aborted
  | loading
  | noScript
  | moved
  | elsewhere
  | tryAgain
  | clusterDown
  | crossSlot
  | masterDown
  | readOnly
  | notBusy
  deriving DecidableEq, Repr

/-- The word that an error of this reason begins with. -/
def Refusal.word : Refusal → String
  | .command => "ERR"
  | .aborted => "EXECABORT"
  | .loading => "LOADING"
  | .noScript => "NOSCRIPT"
  | .moved => "MOVED"
  | .elsewhere => "ASK"
  | .tryAgain => "TRYAGAIN"
  | .clusterDown => "CLUSTERDOWN"
  | .crossSlot => "CROSSSLOT"
  | .masterDown => "MASTERDOWN"
  | .readOnly => "READONLY"
  | .notBusy => "NOTBUSY"

def Refusal.all : List Refusal :=
  [.command, .aborted, .loading, .noScript, .moved, .elsewhere, .tryAgain, .clusterDown,
    .crossSlot, .masterDown, .readOnly, .notBusy]

/-- The reason that a word names. -/
def Refusal.ofWord? (word : String) : Option Refusal := all.find? (·.word == word)

/-- Why a command has no result. -/
inductive Fault where
  | refused (reason : Refusal)
  /-- The server refused for a reason of another name. -/
  | named (reason : String)
  /-- The reply is not of the form that is wanted. -/
  | mistyped
  /-- The connection is gone. -/
  | disconnected
  deriving DecidableEq, Repr

/-- The first word of an error tells what it is. -/
def Fault.ofLine (line : String) : Fault :=
  let word := String.ofList (Text.untilFirst ' ' line.toList)
  match Refusal.ofWord? word with
  | some r => .refused r
  | none => .named word

namespace Reply

mutual

/-- The first error in a reply. -/
def fault? : Reply → Option Fault
  | .error line => some (Fault.ofLine line)
  | .list items => firstFault? items
  | _ => none

def firstFault? : List Reply → Option Fault
  | [] => none
  | r :: rs =>
      match r.fault? with
      | some f => some f
      | none => firstFault? rs

end

def unsigned? : Reply → Option Nat
  | .integer n => some (UInt64.ofInt n).toNat
  | .bulk s | .simple s => Text.natural? Bounds.max64 s
  | _ => none

def signed? : Reply → Option Int
  | .integer n => some n
  | .bulk s | .simple s => Text.integer? Bounds.minSigned Bounds.maxSigned s
  | _ => none

def text? : Reply → Option String
  | .integer n => some (toString n)
  | .bulk s | .simple s => some s
  | _ => none

def real? : Reply → Option Float
  | .integer n => some (Int64.ofInt n).toFloat
  | .bulk s | .simple s => Decimal.read? s
  | _ => none

/-- A member and its score. -/
def scored? (member score : Reply) : Option (String × Float) := do
  return (← member.text?, ← score.real?)

/-- The lists of two among the items; other items are passed over. -/
def pairs (items : List Reply) : List (Reply × Reply) :=
  items.filterMap fun
    | .list [a, b] => some (a, b)
    | _ => none

/-- Every two items; one that is left over is dropped. -/
def couples : List Reply → List (Reply × Reply)
  | a :: b :: rest => (a, b) :: couples rest
  | _ => []

/-- Members with their scores, as lists of two or one behind the other. -/
def scores? : Reply → Option (List (String × Float))
  | .nil => some []
  | .list items =>
      let ps := pairs items
      (if ps.isEmpty then couples items else ps).mapM fun p => scored? p.1 p.2
  | _ => none

end Reply
end Gatehouse.SortedSet
