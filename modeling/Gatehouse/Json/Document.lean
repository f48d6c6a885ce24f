import Gatehouse.Json.Skim
import Gatehouse.Json.Value

/-!
Reading a whole value. Brackets may nest to a depth, numbers have to be in range, and members
of one name are all kept.
-/

namespace Gatehouse.Json

/-- Another element or member follows. `first` says that none has been read yet. -/
def more (opening : UInt8) (first : Bool) : Reader Bool := do
  match ← peek with
  | none => failNext (endIn opening)
  | some b =>
      if b = closer opening then pure false
      else if first then
        if opening = 123 ∧ b ≠ 34 then failNext .keyNotString else pure true
      else if b = 44 then
        drop
        match ← peek with
        | none => failNext .endInValue
        | some b =>
            if b = closer opening then failNext .trailingComma
            else if opening = 123 ∧ b ≠ 34 then failNext .keyNotString
            else pure true
      else failNext (noCommaIn opening)

/-- The key of a member and the colon behind it. -/
def key : Reader String := do
  drop
  string

mutual

/-- Read a value within a depth of nesting. -/
def valueWithin : Nat → Nat → Reader Value
  | 0, _ => fail .endInValue
  | fuel + 1, depth => do
      match ← peek with
      | none => failNext .endInValue
      | some 110 => drop; word restOfNull; pure .null
      | some 116 => drop; word restOfTrue; pure (.boolean true)
      | some 102 => drop; word restOfFalse; pure (.boolean false)
      | some 34 => drop; return .text (← string)
      | some 45 => drop; return .number (← numeral false)
      | some 91 =>
          match depth with
          | 0 => fail .tooDeep
          | depth + 1 => drop; elements fuel depth []
      | some 123 =>
          match depth with
          | 0 => fail .tooDeep
          | depth + 1 => drop; members fuel depth []
      | some b => if isDigit b then return .number (← numeral true) else failNext .noValue

/-- The elements behind those read, which stand in reverse. -/
def elements : Nat → Nat → List Value → Reader Value
  | 0, _, _ => fail .endInValue
  | fuel + 1, depth, got => do
      if ← more 91 got.isEmpty then
        let v ← valueWithin fuel depth
        elements fuel depth (v :: got)
      else
        drop
        pure (.list got.reverse)

/-- The members behind those read, which stand in reverse. -/
def members : Nat → Nat → List (String × Value) → Reader Value
  | 0, _, _ => fail .endInValue
  | fuel + 1, depth, got => do
      if ← more 123 got.isEmpty then
        let k ← key
        colon
        let v ← valueWithin fuel depth
        members fuel depth ((k, v) :: got)
      else
        drop
        pure (.object got.reverse)

end

/-- Read a value whose brackets nest at most `depth` deep. -/
def document (depth : Nat) : Reader Value := fun bs => valueWithin (2 * bs.length + 2) depth bs

end Gatehouse.Json
