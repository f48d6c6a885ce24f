import Gatehouse.Digest.Words

/-!
Base 64 without padding, in the two usual alphabets. Reading is strict: only what writing
produces is read, so unused low bits of the last character have to be zero.
-/

namespace Gatehouse.Text.Base64

/-- The alphabets differ in their last two characters. -/
inductive Alphabet where
  | standard
  | urlSafe
  deriving DecidableEq, Repr

def Alphabet.tail : Alphabet → Char × Char
  | .standard => ('+', '/')
  | .urlSafe => ('-', '_')

/-- The character for six bits. -/
def Alphabet.char (a : Alphabet) (n : Nat) : Char :=
  if n < 26 then Char.ofNat (65 + n)
  else if n < 52 then Char.ofNat (71 + n)
  else if n < 62 then Char.ofNat (n - 4)
  else if n = 62 then a.tail.1
  else a.tail.2

/-- The six bits of a character. -/
def Alphabet.value? (a : Alphabet) (c : Char) : Option Nat :=
  if 'A' ≤ c ∧ c ≤ 'Z' then some (c.toNat - 65)
  else if 'a' ≤ c ∧ c ≤ 'z' then some (c.toNat - 71)
  else if '0' ≤ c ∧ c ≤ '9' then some (c.toNat + 4)
  else if c = a.tail.1 then some 62
  else if c = a.tail.2 then some 63
  else none

theorem Alphabet.value?_char (a : Alphabet) : ∀ n < 64, a.value? (a.char n) = some n := by
  cases a <;> decide

def encode (a : Alphabet) : Bytes → List Char
  | [] => []
  | [x] => [a.char (x.toNat / 4), a.char (x.toNat % 4 * 16)]
  | [x, y] =>
      [a.char (x.toNat / 4), a.char (x.toNat % 4 * 16 + y.toNat / 16),
        a.char (y.toNat % 16 * 4)]
  | x :: y :: z :: rest =>
      a.char (x.toNat / 4) :: a.char (x.toNat % 4 * 16 + y.toNat / 16)
        :: a.char (y.toNat % 16 * 4 + z.toNat / 64) :: a.char (z.toNat % 64)
        :: encode a rest

def decode? (a : Alphabet) : List Char → Option Bytes
  | [] => some []
  | [_] => none
  | [c, d] =>
      match a.value? c, a.value? d with
      | some p, some q => if q % 16 = 0 then some [UInt8.ofNat (p * 4 + q / 16)] else none
      | _, _ => none
  | [c, d, e] =>
      match a.value? c, a.value? d, a.value? e with
      | some p, some q, some r =>
          if r % 4 = 0 then
            some [UInt8.ofNat (p * 4 + q / 16), UInt8.ofNat (q % 16 * 16 + r / 4)]
          else none
      | _, _, _ => none
  | c :: d :: e :: f :: rest =>
      match a.value? c, a.value? d, a.value? e, a.value? f, decode? a rest with
      | some p, some q, some r, some s, some bytes =>
          some (UInt8.ofNat (p * 4 + q / 16) :: UInt8.ofNat (q % 16 * 16 + r / 4)
            :: UInt8.ofNat (r % 4 * 64 + s) :: bytes)
      | _, _, _, _, _ => none

private theorem eq_of_toNat {x : UInt8} {n : Nat} (h : n = x.toNat) : UInt8.ofNat n = x := by
  subst h; simp

theorem decode?_encode (a : Alphabet) (bytes : Bytes) :
    decode? a (encode a bytes) = some bytes := by
  induction bytes using encode.induct with
  | case1 => rfl
  | case2 x =>
      have hx : x.toNat < 256 := x.toNat_lt
      simp only [encode, decode?, a.value?_char (x.toNat / 4) (by omega),
        a.value?_char (x.toNat % 4 * 16) (by omega)]
      rw [if_pos (by omega), eq_of_toNat (x := x) (by omega)]
  | case3 x y =>
      have hx : x.toNat < 256 := x.toNat_lt
      have hy : y.toNat < 256 := y.toNat_lt
      simp only [encode, decode?, a.value?_char (x.toNat / 4) (by omega),
        a.value?_char (x.toNat % 4 * 16 + y.toNat / 16) (by omega),
        a.value?_char (y.toNat % 16 * 4) (by omega)]
      rw [if_pos (by omega), eq_of_toNat (x := x) (by omega), eq_of_toNat (x := y) (by omega)]
  | case4 x y z rest ih =>
      have hx : x.toNat < 256 := x.toNat_lt
      have hy : y.toNat < 256 := y.toNat_lt
      have hz : z.toNat < 256 := z.toNat_lt
      simp only [encode, decode?, ih, a.value?_char (x.toNat / 4) (by omega),
        a.value?_char (x.toNat % 4 * 16 + y.toNat / 16) (by omega),
        a.value?_char (y.toNat % 16 * 4 + z.toNat / 64) (by omega),
        a.value?_char (z.toNat % 64) (by omega)]
      rw [eq_of_toNat (x := x) (by omega), eq_of_toNat (x := y) (by omega),
        eq_of_toNat (x := z) (by omega)]

/-- The written form of bytes. -/
def text (a : Alphabet) (bytes : Bytes) : String := String.ofList (encode a bytes)

end Gatehouse.Text.Base64
