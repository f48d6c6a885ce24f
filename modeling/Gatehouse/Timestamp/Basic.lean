/-!
Points in time: seconds since the beginning of 1970 in UTC, and nanoseconds. A leap second
belongs to the second before it and has a thousand million nanoseconds or more.
-/

namespace Gatehouse

structure Timestamp where
  seconds : Int
  nanos : Nat := 0
  deriving DecidableEq, Repr

namespace Timestamp

/-- Nanoseconds of a second. -/
def perSecond : Nat := 1000000000

instance : LT Timestamp where
  lt a b := a.seconds < b.seconds ∨ (a.seconds = b.seconds ∧ a.nanos < b.nanos)

instance : LE Timestamp where
  le a b := ¬ b < a

theorem lt_def {a b : Timestamp} :
    a < b ↔ a.seconds < b.seconds ∨ (a.seconds = b.seconds ∧ a.nanos < b.nanos) := Iff.rfl

theorem le_def {a b : Timestamp} : a ≤ b ↔ ¬ b < a := Iff.rfl

instance (a b : Timestamp) : Decidable (a < b) :=
  decidable_of_iff (a.seconds < b.seconds ∨ (a.seconds = b.seconds ∧ a.nanos < b.nanos)) Iff.rfl

instance (a b : Timestamp) : Decidable (a ≤ b) :=
  decidable_of_iff (¬ b < a) Iff.rfl

theorem le_trans {a b c : Timestamp} (h : a ≤ b) (h' : b ≤ c) : a ≤ c := by
  rw [le_def, lt_def] at *; omega

theorem lt_of_lt_of_le {a b c : Timestamp} (h : a < b) (h' : b ≤ c) : a < c := by
  rw [lt_def] at *; rw [le_def, lt_def] at h'; omega

/-- Later by whole seconds. -/
def addSeconds (t : Timestamp) (n : Int) : Timestamp := { t with seconds := t.seconds + n }

/-- Later by milliseconds. -/
def addMillis (t : Timestamp) (n : Nat) : Timestamp :=
  let nanos := t.nanos + n * 1000000
  ⟨t.seconds + (nanos / perSecond : Nat), nanos % perSecond⟩

/-- Milliseconds since the beginning of 1970. -/
def millis (t : Timestamp) : Int := t.seconds * 1000 + (t.nanos / 1000000 : Nat)

/-- Microseconds since another time, a part of one dropped. -/
def microsSince (t origin : Timestamp) : Int :=
  ((t.seconds - origin.seconds) * perSecond + t.nanos - origin.nanos).tdiv 1000

/-- The time so many microseconds after another. -/
def afterMicros (origin : Timestamp) (micros : Int) : Timestamp :=
  let total := origin.seconds * 1000000 + micros
  ⟨total / 1000000, (total % 1000000).toNat * 1000⟩

end Timestamp
end Gatehouse
