import Gatehouse.Bounds
import Gatehouse.Text.Cut

/-!
Names in ASCII that stand for names with other characters. Behind the ASCII characters and a
hyphen, each number tells how far on the next character is, counting places in the name and
code points; the digits of a number end with one below a threshold, which adapts.
-/

namespace Gatehouse.Net.Domain

/-- The value of a digit: letters first, then the digits from zero to nine. -/
def letterValue? (c : Char) : Option Nat :=
  if 'a' ≤ c ∧ c ≤ 'z' then some (c.toNat - 97)
  else if '0' ≤ c ∧ c ≤ '9' then some (c.toNat - 22)
  else none

/-- The threshold of a digit, from one to twenty-six: how far its place is above the bias. -/
def threshold (place bias : Nat) : Nat := max 1 (min 26 (place - bias))

/-- How often a number is divided by thirty-five until it is at most 455, and what is left. -/
def lessened (delta : Nat) : Nat × Nat :=
  if delta ≤ 455 then (0, delta)
  else
    let (times, left) := lessened (delta / 35)
    (times + 1, left)
termination_by delta
decreasing_by omega

/-- The bias behind a number that led to the character number `count`. The first number counts
for less than the others. -/
def adapt (delta count : Nat) (first : Bool) : Nat :=
  let scaled := delta / if first then 700 else 2
  let (times, left) := lessened (scaled + scaled / count)
  36 * times + 36 * left / (left + 38)

/-- A number, added to `sum`, and what is left behind it. Its weights fit 32 bits. -/
def number? (bias : Nat) : List Char → Nat → Nat → Nat → Option (Nat × List Char)
  | [], _, _, _ => none
  | c :: rest, place, weight, sum =>
      match letterValue? c with
      | none => none
      | some d =>
          if d < threshold place bias then some (sum + d * weight, rest)
          else if Bounds.max32 < weight * (36 - threshold place bias) then none
          else number? bias rest (place + 36) (weight * (36 - threshold place bias))
            (sum + d * weight)

theorem length_of_number? {bias : Nat} {cs rest : List Char} {place weight sum n : Nat}
    (h : number? bias cs place weight sum = some (n, rest)) : rest.length < cs.length := by
  induction cs generalizing place weight sum with
  | nil => simp [number?] at h
  | cons c cs ih =>
      rw [number?] at h
      split at h
      · cases h
      · split at h
        · cases h
          exact Nat.lt_succ_self _
        · split at h
          · cases h
          · exact Nat.lt_succ_of_lt (ih h)

/-- Put the characters that the numbers tell into a name. -/
def fill (bias code place : Nat) (name : List Char) (cs : List Char) : Option (List Char) :=
  match cs with
  | [] => some name
  | c :: rest =>
      match _h : number? bias (c :: rest) 36 1 place with
      | none => none
      | some (sum, left) =>
          let count := name.length + 1
          let code := code + sum / count
          if code.isValidChar then
            fill (adapt (sum - place) count (place == 0)) code (sum % count + 1)
              (name.insertIdx (sum % count) (Char.ofNat code)) left
          else none
termination_by cs.length
decreasing_by exact length_of_number? _h

/-- The name that a name in ASCII stands for. -/
def expand? (cs : List Char) : Option (List Char) :=
  let (start, numbers) := (Text.cutLast '-' cs).getD ([], cs)
  fill 72 128 0 start numbers

end Gatehouse.Net.Domain
