import Gatehouse.Text.Blank
import Gatehouse.Text.Integer
import Gatehouse.Timestamp.Basic
import Gatehouse.Timestamp.Calendar

/-!
The text of a time: date, `T`, time of day and zone. It is written in UTC with the fewest of
no, three, six and nine digits of a second. Reading is more liberal: numbers may be shorter,
white space may stand before numbers and marks, and the zone may be an offset.
-/

namespace Gatehouse.Timestamp

/-- A number in decimal with at least `width` digits. -/
def padded (width n : Nat) : List Char :=
  let ds := Nat.toDigits 10 n
  List.replicate (width - ds.length) '0' ++ ds

/-- Four digits, with a sign for years that have more or are negative. -/
def yearText (year : Int) : List Char :=
  if 0 ≤ year ∧ year ≤ 9999 then padded 4 year.toNat
  else (if year < 0 then '-' else '+') :: padded 4 year.natAbs

def fractionText (nanos : Nat) : List Char :=
  if nanos = 0 then []
  else if nanos % 1000000 = 0 then '.' :: padded 3 (nanos / 1000000)
  else if nanos % 1000 = 0 then '.' :: padded 6 (nanos / 1000)
  else '.' :: padded 9 nanos

def text (t : Timestamp) : String :=
  let date := Date.ofDays (t.seconds / 86400)
  let second := (t.seconds % 86400).toNat
  let leap := t.nanos / perSecond
  String.ofList (yearText date.year ++ '-' :: (padded 2 date.month ++ '-' :: (padded 2 date.day
    ++ 'T' :: (padded 2 (second / 3600) ++ ':' :: (padded 2 (second / 60 % 60)
    ++ ':' :: (padded 2 (second % 60 + leap) ++ (fractionText (t.nanos % perSecond) ++ ['Z'])))))))

/-- Readers of parts of a time. -/
abbrev Part (α : Type) := StateT (List Char) Option α

def blanks : Part Unit := modify Text.trimStart

/-- One of some characters. -/
def mark (choices : List Char) : Part Char := fun cs =>
  match cs with
  | c :: rest => if choices.contains c then some (c, rest) else none
  | [] => none

/-- One digit up to `width` of them. -/
def digits (width : Nat) : Part Nat := fun cs =>
  let ds := (cs.take width).takeWhile fun c => (Text.digit? c).isSome
  (Text.digits? ds).map fun n => (n, cs.drop ds.length)

/-- A number of up to `width` digits, behind white space. -/
def number (width : Nat) : Part Nat := do
  blanks
  digits width

/-- A year: up to four digits, or any number of them behind a sign. -/
def year : Part Int := do
  blanks
  match ← get with
  | '-' :: rest => set rest; return -(← digits rest.length : Int)
  | '+' :: rest => set rest; return (← digits rest.length : Int)
  | _ => return (← digits 4 : Int)

/-- Digits behind a point; nine of them count. -/
def fraction : Part Nat := fun cs =>
  match cs with
  | '.' :: rest =>
      let ds := rest.takeWhile fun c => (Text.digit? c).isSome
      let kept := ds.take 9
      (Text.digits? kept).map fun n => (n * Nat.pow 10 (9 - kept.length), rest.drop ds.length)
  | _ => some (0, cs)

/-- Two digits, the first of them at most `high`. -/
def twoDigits (high : Nat) : Part Nat := fun cs =>
  match cs with
  | a :: b :: rest =>
      match Text.digit? a, Text.digit? b with
      | some x, some y => if x ≤ high then some (10 * x + y, rest) else none
      | _, _ => none
  | _ => none

/-- The zone, in seconds east of UTC. -/
def zone : Part Int := do
  let cs ← get
  if (cs.take 3).map Char.toUpper = ['U', 'T', 'C'] then
    set (cs.drop 3)
    pure 0
  else match ← mark ['Z', 'z', '+', '-', '−'] with
    | 'Z' | 'z' => pure 0
    | sign => do
        let hours ← twoDigits 9
        modify fun cs => cs.dropWhile fun c => c == ':' || Text.isBlank c
        let minutes ← twoDigits 5
        let east : Int := hours * 3600 + minutes * 60
        if 86400 ≤ east then failure
        else pure (if sign = '+' then east else -east)

def guardPart (b : Bool) : Part Unit := if b then pure () else failure

def date : Part Date := do
  let y ← year
  blanks
  let _ ← mark ['-']
  let m ← number 2
  blanks
  let _ ← mark ['-']
  let d ← number 2
  pure ⟨y, m, d⟩

/-- Seconds and nanoseconds of the day; second 60 is a leap second. -/
def timeOfDay : Part (Nat × Nat) := do
  let h ← number 2
  blanks
  let _ ← mark [':']
  let m ← number 2
  blanks
  let _ ← mark [':']
  let s ← number 2
  let nanos ← fraction
  guardPart (h ≤ 23 && m ≤ 59 && s ≤ 60)
  pure (if s = 60 then (h * 3600 + m * 60 + 59, nanos + perSecond)
    else (h * 3600 + m * 60 + s, nanos))

def minYear : Int := -262143
def maxYear : Int := 262142

def inYears (days : Int) : Bool :=
  (Date.mk minYear 1 1).toDays ≤ days && days ≤ (Date.mk maxYear 12 31).toDays

def whole : Part Timestamp := do
  let d ← date
  let _ ← mark ['t', 'T', ' ']
  let (second, nanos) ← timeOfDay
  blanks
  let east ← zone
  blanks
  guardPart ((← get).isEmpty && d.isValid && minYear ≤ d.year && d.year ≤ maxYear)
  let seconds := d.toDays * 86400 + second - east
  guardPart (inYears (seconds / 86400))
  pure ⟨seconds, nanos⟩

/-- Read a time. -/
def read? (s : String) : Option Timestamp := (whole s.toList).map (·.1)

end Gatehouse.Timestamp
