import Gatehouse.Json.Fault

/-!
Reading JSON from bytes: white space, words, strings and numbers. A reader takes what it needs
from the front and leaves the rest, or fails with the number of bytes that were left.
-/

namespace Gatehouse.Json

abbrev Reader (α : Type) := StateT Bytes (Except Fault) α

/-- Fail behind the bytes that have been taken. -/
def fail {α : Type} (c : Cause) : Reader α := fun bs => .error ⟨c, bs.length, none⟩

/-- Fail behind the next byte, when there is one. -/
def failNext {α : Type} (c : Cause) : Reader α := fun bs => .error ⟨c, bs.length - 1, none⟩

def isSpace (b : UInt8) : Bool := b == 32 || b == 10 || b == 13 || b == 9

def skipSpace (bs : Bytes) : Bytes := bs.dropWhile isSpace

/-- The next byte that is no white space, which is not taken. -/
def peek : Reader (Option UInt8) := fun bs =>
  let rest := skipSpace bs
  .ok (rest.head?, rest)

/-- Take one byte. -/
def drop : Reader Unit := fun bs => .ok ((), bs.tail)

/-- The rest of a word whose first letter has been taken. -/
def word : Bytes → Reader Unit
  | [], bs => .ok ((), bs)
  | _ :: _, [] => .error ⟨.endInValue, 0, none⟩
  | e :: es, b :: bs => if b = e then word es bs else .error ⟨.noWord, bs.length, none⟩

/-- The letters behind the first one of `null`, `true` and `false`. -/
def restOfNull : Bytes := [117, 108, 108]
def restOfTrue : Bytes := [114, 117, 101]
def restOfFalse : Bytes := [97, 108, 115, 101]

/-- What is read next inside a string. -/
inductive Mode where
  | plain
  | escape
  /-- Hexadecimal digits of a code unit, `left` more than one of them; behind a leading
  surrogate they have to give the trailing one. -/
  | unit (left : Nat) (value : Option Nat) (leading : Option Nat)
  /-- A backslash that has to follow a leading surrogate. -/
  | backslash (leading : Nat)
  /-- The letter behind it. -/
  | letter (leading : Nat)
  deriving DecidableEq, Repr

inductive Step where
  | close
  | go (next : Mode) (out : Bytes)
  deriving DecidableEq, Repr

def isLeading (n : Nat) : Bool := 0xD800 ≤ n && n ≤ 0xDBFF

def isTrailing (n : Nat) : Bool := 0xDC00 ≤ n && n ≤ 0xDFFF

def utf8OfCode (n : Nat) : Bytes := String.utf8EncodeChar (Char.ofNat n)

/-- A code unit has been read. -/
def unitRead : Option Nat → Option Nat → Except Cause Step
  | none, _ => .error .badEscape
  | some n, none =>
      if isTrailing n then .error .loneSurrogate
      else if isLeading n then .ok (.go (.backslash n) [])
      else .ok (.go .plain (utf8OfCode n))
  | some n, some leading =>
      if isTrailing n then
        .ok (.go .plain (utf8OfCode (0x10000 + (leading - 0xD800) * 0x400 + (n - 0xDC00))))
      else .error .loneSurrogate

/-- The byte that a letter behind a backslash stands for. -/
def escaped? (b : UInt8) : Option UInt8 :=
  if b = 34 ∨ b = 92 ∨ b = 47 then some b
  else if b = 98 then some 8
  else if b = 102 then some 12
  else if b = 110 then some 10
  else if b = 114 then some 13
  else if b = 116 then some 9
  else none

def hexDigit? (b : UInt8) : Option Nat := Text.hexValue? (Char.ofNat b.toNat)

def withDigit (value : Option Nat) (b : UInt8) : Option Nat :=
  match value, hexDigit? b with
  | some v, some d => some (16 * v + d)
  | _, _ => none

def step : Mode → UInt8 → Except Cause Step
  | .plain, b =>
      if b = 34 then .ok .close
      else if b = 92 then .ok (.go .escape [])
      else if b < 32 then .error .controlCharacter
      else .ok (.go .plain [b])
  | .escape, b =>
      if b = 117 then .ok (.go (.unit 3 (some 0) none) [])
      else match escaped? b with
        | some c => .ok (.go .plain [c])
        | none => .error .badEscape
  | .unit 0 value leading, b => unitRead (withDigit value b) leading
  | .unit (left + 1) value leading, b => .ok (.go (.unit left (withDigit value b) leading) [])
  | .backslash leading, b =>
      if b = 92 then .ok (.go (.letter leading) []) else .error .endOfHexEscape
  | .letter leading, b =>
      if b = 117 then .ok (.go (.unit 3 (some 0) (some leading)) []) else .error .endOfHexEscape

/-- The bytes of a string up to its closing quote, behind those already read, which stand in
reverse. -/
def stringBytes : Mode → Bytes → Reader Bytes
  | _, _, [] => .error ⟨.endInString, 0, none⟩
  | m, out, b :: bs =>
      match step m b with
      | .error c => .error ⟨c, bs.length, none⟩
      | .ok .close => .ok (out.reverse, bs)
      | .ok (.go m more) => stringBytes m (more.reverse ++ out) bs

/-- The text that bytes write in UTF-8. -/
def textOfBytes? (bs : Bytes) : Option String := String.fromUTF8? ⟨⟨bs⟩⟩

theorem textOfBytes?_utf8 (s : String) : textOfBytes? (Text.utf8 s) = some s := by
  show (if h : s.toByteArray.IsValidUTF8 then some (String.fromUTF8 s.toByteArray h) else none)
    = some s
  rw [dif_pos s.isValidUTF8]
  rfl

/-- A string whose opening quote has been taken. -/
def string : Reader String := do
  let bytes ← stringBytes .plain []
  match textOfBytes? bytes with
  | some s => pure s
  | none => fail .badCodePoint

def isDigit (b : UInt8) : Bool := 48 ≤ b && b ≤ 57

/-- The digits in front. -/
def digits : Reader (List Nat) := fun bs =>
  .ok ((bs.takeWhile isDigit).map fun b => b.toNat - 48, bs.dropWhile isDigit)

/-- Take the next byte if it is one of those given. -/
def accept (choices : Bytes) : Reader (Option UInt8) := fun bs =>
  match bs with
  | b :: rest => if choices.contains b then .ok (some b, rest) else .ok (none, bs)
  | [] => .ok (none, [])

/-- Fail where a digit has to stand; the byte in its place is taken. -/
def noDigit : Reader Numeral := fun bs =>
  .error ⟨if bs.isEmpty then .endInValue else .badNumber, bs.length - 1, none⟩

/-- A numeral with a power of ten, unless it is out of range. -/
def real (positive : Bool) (significand : Nat) (exponent : Int) : Reader Numeral :=
  if (scaled? significand exponent).isSome then pure (.real positive significand exponent)
  else fail .numberOutOfRange

/-- The power of ten of a numeral, whose letter has been taken. -/
def power (positive : Bool) (significand : Nat) (exponent : Int) : Reader Numeral := do
  let sign ← accept [43, 45]
  let ds ← digits
  match ds with
  | [] => noDigit
  | ds =>
      match absorb maxExponent 0 ds with
      | (n, []) => real positive significand (exponent + if sign = some 45 then -(n : Int) else n)
      | (_, excess) =>
          if significand = 0 ∨ sign = some 45 then pure (.real positive 0 0)
          else fun bs => .error ⟨.numberOutOfRange, bs.length + excess.length - 1, none⟩

/-- What follows the whole part of a numeral: `excess` of its digits did not fit. -/
def afterWhole (positive : Bool) (significand excess : Nat) : Reader Numeral := do
  match ← accept [46] with
  | some _ => do
      let ds ← digits
      if ds.isEmpty then noDigit
      else
        let (significand, rest) := absorb maxNatural significand ds
        let exponent : Int := (excess : Int) - (ds.length - rest.length : Nat)
        match ← accept [101, 69] with
        | some _ => power positive significand exponent
        | none => real positive significand exponent
  | none =>
      match ← accept [101, 69] with
      | some _ => power positive significand excess
      | none =>
          if excess ≠ 0 then real positive significand excess
          else if positive then pure (.natural significand)
          else if significand = 0 ∨ 0x8000000000000000 < significand then real false significand 0
          else pure (.negative significand)

/-- A number whose minus sign, if it has one, has been taken. -/
def numeral (positive : Bool) : Reader Numeral := do
  let ds ← digits
  match ds with
  | [] => noDigit
  | 0 :: more => do
      if more.isEmpty then afterWhole positive 0 0
      else fun bs => .error ⟨.badNumber, bs.length + more.length - 1, none⟩
  | ds =>
      let (significand, excess) := absorb maxNatural 0 ds
      afterWhole positive significand excess.length

end Gatehouse.Json
