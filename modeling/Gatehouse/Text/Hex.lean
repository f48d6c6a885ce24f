/-!
Hexadecimal digits: lower case when written, either case when read.
-/

namespace Gatehouse.Text

def hexDigit (n : Nat) : Char :=
  if n < 10 then Char.ofNat (48 + n) else Char.ofNat (87 + n)

def hexValue? (c : Char) : Option Nat :=
  if '0' ≤ c ∧ c ≤ '9' then some (c.toNat - 48)
  else if 'a' ≤ c ∧ c ≤ 'f' then some (c.toNat - 87)
  else if 'A' ≤ c ∧ c ≤ 'F' then some (c.toNat - 55)
  else none

theorem hexValue?_hexDigit : ∀ n < 16, hexValue? (hexDigit n) = some n := by decide

/-- Two digits for each byte. -/
def hexOfBytes (bytes : List UInt8) : List Char :=
  bytes.flatMap fun b => [hexDigit (b.toNat / 16), hexDigit (b.toNat % 16)]

/-- Read two digits for each byte. -/
def bytesOfHex? : List Char → Option (List UInt8)
  | [] => some []
  | [_] => none
  | h :: l :: rest =>
      match hexValue? h, hexValue? l, bytesOfHex? rest with
      | some a, some b, some bs => some (UInt8.ofNat (16 * a + b) :: bs)
      | _, _, _ => none

theorem bytesOfHex?_hexOfBytes (bytes : List UInt8) :
    bytesOfHex? (hexOfBytes bytes) = some bytes := by
  induction bytes with
  | nil => rfl
  | cons b bs ih =>
      have hb : b.toNat < 256 := b.toNat_lt
      have hh : b.toNat / 16 < 16 := by omega
      have hl : b.toNat % 16 < 16 := by omega
      have e : hexOfBytes (b :: bs)
          = hexDigit (b.toNat / 16) :: hexDigit (b.toNat % 16) :: hexOfBytes bs := rfl
      have v : 16 * (b.toNat / 16) + b.toNat % 16 = b.toNat := by omega
      rw [e, bytesOfHex?, hexValue?_hexDigit _ hh, hexValue?_hexDigit _ hl, ih]
      simp [v]

/-- A number in lower-case hexadecimal, without leading zeros. -/
def hexOfNat (n : Nat) : String :=
  String.ofList (Nat.toDigits 16 n)

end Gatehouse.Text
