import Gatehouse.Digest.Argon2

/-!
The cost settings of password hashing and the bounds they have to keep.
-/

namespace Gatehouse.Password

/-- What a digest costs to compute, and the lengths in bytes of its salt and of itself. -/
structure Settings where
  memoryKib : Nat := 65536
  iterations : Nat := 3
  parallelism : Nat := 4
  saltLength : Nat := 16
  keyLength : Nat := 32
  deriving DecidableEq, Repr

/-- A bound that cost parameters do not keep. -/
inductive CostError where
  | memoryTooLittle
  | timeTooSmall
  | threadsTooFew
  | threadsTooMany
  | outputTooShort
  | outputTooLong
  deriving DecidableEq, Repr

def CostError.message : CostError → String
  | .memoryTooLittle => "memory cost is too small"
  | .timeTooSmall => "time cost is too small"
  | .threadsTooFew => "not enough threads"
  | .threadsTooMany => "too many threads"
  | .outputTooShort => "output is too short"
  | .outputTooLong => "output is too long"

/-- The first bound that is not kept. A lane needs eight blocks; eight times the lanes is
taken in 32 bits. -/
def checkCost (c : Digest.Argon2.Cost) (size : Option Nat) : Except CostError Unit :=
  if c.memory < 8 then .error .memoryTooLittle
  else if c.memory < c.lanes * 8 % 0x100000000 then .error .memoryTooLittle
  else if c.passes < 1 then .error .timeTooSmall
  else if c.lanes < 1 then .error .threadsTooFew
  else if 0xFFFFFF < c.lanes then .error .threadsTooMany
  else match size with
    | none => .ok ()
    | some n =>
        if n < 4 then .error .outputTooShort
        else if 0xFFFFFFFF < n then .error .outputTooLong
        else .ok ()

inductive SettingsError where
  | saltLength (got : Nat)
  | cost (cause : CostError)
  deriving DecidableEq, Repr

def SettingsError.message : SettingsError → String
  | .saltLength got => s!"salt length must be between 8 and 48 bytes, got {got}"
  | .cost cause => "Invalid Argon2 parameters: " ++ cause.message

def Settings.cost (s : Settings) : Digest.Argon2.Cost :=
  ⟨s.memoryKib, s.iterations, s.parallelism⟩

/-- Settings are usable when the salt is of eight to forty-eight bytes and the cost keeps
its bounds; the salt is looked at first. -/
def Settings.check (s : Settings) : Except SettingsError Unit :=
  if s.saltLength < 8 ∨ 48 < s.saltLength then .error (.saltLength s.saltLength)
  else match checkCost s.cost (some s.keyLength) with
    | .ok () => .ok ()
    | .error cause => .error (.cost cause)

end Gatehouse.Password
