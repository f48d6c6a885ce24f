import Gatehouse.Digest.Words

/-!
Bytes as text in UTF-8. Where bytes are no text, the fault tells how far they are one, and how
many bytes spoil it; reading past faults puts a replacement character in the place of each.
-/

namespace Gatehouse.Text

/-- What bytes begin with. -/
inductive Sequence where
  /-- A character of so many bytes. -/
  | whole (length : Nat)
  /-- So many bytes that begin no character. -/
  | broken (length : Nat)
  /-- A character that is cut off. -/
  | cut
  deriving DecidableEq, Repr

def isContinuation (b : UInt8) : Bool := 0x80 ≤ b && b ≤ 0xBF

/-- Further bytes of a character, each in its place: `length` bytes have been found. -/
def continued : Nat → List (UInt8 → Bool) → Bytes → Sequence
  | length, [], _ => .whole length
  | _, _ :: _, [] => .cut
  | length, ok :: oks, b :: bs => if ok b then continued (length + 1) oks bs else .broken length

/-- The bytes that may follow a first one; none when it begins no character. -/
def followers? (first : UInt8) : Option (List (UInt8 → Bool)) :=
  let between (low high : UInt8) (b : UInt8) : Bool := low ≤ b && b ≤ high
  if first < 0x80 then some []
  else if first < 0xC2 then none
  else if first < 0xE0 then some [isContinuation]
  else if first = 0xE0 then some [between 0xA0 0xBF, isContinuation]
  else if first = 0xED then some [between 0x80 0x9F, isContinuation]
  else if first < 0xF0 then some [isContinuation, isContinuation]
  else if first = 0xF0 then some [between 0x90 0xBF, isContinuation, isContinuation]
  else if first < 0xF4 then some [isContinuation, isContinuation, isContinuation]
  else if first = 0xF4 then some [between 0x80 0x8F, isContinuation, isContinuation]
  else none

/-- What bytes that are not empty begin with. -/
def sequence (first : UInt8) (rest : Bytes) : Sequence :=
  match followers? first with
  | some oks => continued 1 oks rest
  | none => .broken 1

/-- Why bytes are no text: the place, and how many bytes begin no character there; none when
the end cuts one off. -/
structure Utf8Fault where
  place : Nat
  length : Option Nat
  deriving DecidableEq, Repr

def Utf8Fault.message (f : Utf8Fault) : String :=
  match f.length with
  | some n => s!"invalid utf-8 sequence of {n} bytes from index {f.place}"
  | none => s!"incomplete utf-8 byte sequence from index {f.place}"

/-- The first fault behind `place` bytes of text. -/
def faultFrom? : Nat → Nat → Bytes → Option Utf8Fault
  | 0, _, _ => none
  | _, _, [] => none
  | fuel + 1, place, b :: bs =>
      match sequence b bs with
      | .whole n => faultFrom? fuel (place + n) (bs.drop (n - 1))
      | .broken n => some ⟨place, some n⟩
      | .cut => some ⟨place, none⟩

/-- The first fault of bytes as text. -/
def utf8Fault? (bytes : Bytes) : Option Utf8Fault := faultFrom? bytes.length 0 bytes

def replacement : Bytes := utf8 "\uFFFD"

/-- Bytes with a replacement character in the place of every fault. -/
def repaired : Nat → Bytes → Bytes
  | 0, _ => []
  | _, [] => []
  | fuel + 1, b :: bs =>
      match sequence b bs with
      | .whole n => b :: (bs.take (n - 1) ++ repaired fuel (bs.drop (n - 1)))
      | .broken n => replacement ++ repaired fuel (bs.drop (n - 1))
      | .cut => replacement

/-- The text that bytes are taken for. -/
def lossyText (bytes : Bytes) : String :=
  (String.fromUTF8? ⟨(repaired bytes.length bytes).toArray⟩).getD ""

end Gatehouse.Text
