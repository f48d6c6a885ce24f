import Gatehouse.Json.Reader

/-!
Passing over a value that is not wanted. Only its brackets, words, quotes and numerals are
looked at: nesting has no limit, and neither code points nor ranges are checked.
-/

namespace Gatehouse.Json

/-- What is passed over next. -/
inductive Task where
  | value
  /-- Behind an opening bracket. -/
  | opened
  /-- Before an element or a member. -/
  | item
  /-- Behind a value. -/
  | next

def skimByte : Mode → UInt8 → Except Cause Step
  | .plain, b =>
      if b = 34 then .ok .close
      else if b = 92 then .ok (.go .escape [])
      else if b < 32 then .error .controlCharacter
      else .ok (.go .plain [])
  | .escape, b =>
      if b = 117 then .ok (.go (.unit 3 (some 0) none) [])
      else if (escaped? b).isSome then .ok (.go .plain [])
      else .error .badEscape
  | .unit (left + 1) value leading, b => .ok (.go (.unit left (withDigit value b) leading) [])
  | .unit 0 value _, b =>
      if (withDigit value b).isSome then .ok (.go .plain []) else .error .badEscape
  | .backslash _, _ | .letter _, _ => .ok (.go .plain [])

/-- Pass over the rest of a string. A control character is not taken. -/
def skimString : Mode → Reader Unit
  | _, [] => .error ⟨.endInString, 0, none⟩
  | m, b :: bs =>
      match skimByte m b with
      | .error .controlCharacter => .error ⟨.controlCharacter, bs.length + 1, none⟩
      | .error c => .error ⟨c, bs.length, none⟩
      | .ok .close => .ok ((), bs)
      | .ok (.go m _) => skimString m bs

def skimDigits : Reader Unit := fun bs => .ok ((), bs.dropWhile isDigit)

/-- One digit, which has to be there; another byte in its place is taken. -/
def skimDigit : Reader Unit := fun bs =>
  match bs with
  | b :: rest => if isDigit b then .ok ((), rest) else .error ⟨.badNumber, rest.length, none⟩
  | [] => .error ⟨.badNumber, 0, none⟩

def skimPower : Reader Unit := do
  let _ ← accept [43, 45]
  skimDigit
  skimDigits

def skimNumber : Reader Unit := do
  let ds ← digits
  match ds with
  | [] => skimDigit
  | 0 :: d :: more => fun bs => .error ⟨.badNumber, bs.length + (d :: more).length - 1, none⟩
  | _ => pure ()
  match ← accept [46] with
  | some _ =>
      let ds ← digits
      if ds.isEmpty then failNext .badNumber
      match ← accept [101, 69] with
      | some _ => skimPower
      | none => pure ()
  | none =>
      match ← accept [101, 69] with
      | some _ => skimPower
      | none => pure ()

/-- The bracket that closes another. -/
def closer (opening : UInt8) : UInt8 := opening + 2

def endIn (opening : UInt8) : Cause := if opening = 91 then .endInList else .endInObject

def noCommaIn (opening : UInt8) : Cause :=
  if opening = 91 then .noCommaInList else .noCommaInObject

/-- Take a colon. -/
def colon : Reader Unit := do
  match ← peek with
  | some 58 => drop
  | some _ => failNext .noColon
  | none => failNext .endInObject

/-- One step; the stack holds the brackets that are open. -/
def skimStep : Task → Bytes → Reader (Option (Task × Bytes))
  | .value, stack => do
      match ← peek with
      | none => failNext .endInValue
      | some 110 => drop; word restOfNull; pure (some (.next, stack))
      | some 116 => drop; word restOfTrue; pure (some (.next, stack))
      | some 102 => drop; word restOfFalse; pure (some (.next, stack))
      | some 34 => drop; skimString .plain; pure (some (.next, stack))
      | some 45 => drop; skimNumber; pure (some (.next, stack))
      | some b =>
          if isDigit b then skimNumber; pure (some (.next, stack))
          else if b = 91 ∨ b = 123 then drop; pure (some (.opened, b :: stack))
          else failNext .noValue
  | _, [] => pure none
  | .opened, opening :: stack => do
      match ← peek with
      | none => failNext (endIn opening)
      | some b =>
          if b = closer opening then drop; pure (some (.next, stack))
          else pure (some (.item, opening :: stack))
  | .item, opening :: stack => do
      if opening = 91 then pure (some (.value, opening :: stack))
      else
        match ← peek with
        | some 34 => drop; skimString .plain; colon; pure (some (.value, opening :: stack))
        | some _ => failNext .keyNotString
        | none => failNext .endInObject
  | .next, opening :: stack => do
      match ← peek with
      | none => failNext (endIn opening)
      | some b =>
          if b = 44 then drop; pure (some (.item, opening :: stack))
          else if b = closer opening then drop; pure (some (.next, stack))
          else failNext (noCommaIn opening)

def skimLoop : Nat → Task → Bytes → Reader Unit
  | 0, _, _ => fail .endInValue
  | fuel + 1, task, stack => do
      match ← skimStep task stack with
      | none => pure ()
      | some (task, stack) => skimLoop fuel task stack

/-- Pass over a value. -/
def skim : Reader Unit := fun bs => skimLoop (3 * bs.length + 3) .value [] bs

end Gatehouse.Json
