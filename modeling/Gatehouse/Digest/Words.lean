/-!
Byte strings and their machine words. SHA-1 and SHA-256 read words with the highest byte
first, BLAKE2b and Argon2 with the lowest byte first.
-/

namespace Gatehouse

abbrev Bytes := List UInt8

/-- The bytes of a text in UTF-8. -/
def Text.utf8 (s : String) : Bytes := s.toUTF8.data.toList

namespace Digest

/-- Cut a list into pieces of `n`, at least one, the last of them possibly shorter. -/
def pieces {α : Type} (n : Nat) (xs : List α) : List (List α) :=
  match xs with
  | [] => []
  | x :: rest => (x :: rest.take (n - 1)) :: pieces n (rest.drop (n - 1))
termination_by xs.length
decreasing_by simp only [List.length_drop, List.length_cons]; omega

/-- The number that bytes write with the highest first. -/
def ofBigEndian (bytes : Bytes) : Nat :=
  bytes.foldl (fun acc b => 256 * acc + b.toNat) 0

/-- The number that bytes write with the lowest first. -/
def ofLittleEndian : Bytes → Nat
  | [] => 0
  | b :: rest => b.toNat + 256 * ofLittleEndian rest

/-- The low `8 * n` bits of a number, lowest byte first. -/
def littleEndian : Nat → Nat → Bytes
  | 0, _ => []
  | n + 1, x => UInt8.ofNat (x % 256) :: littleEndian n (x / 256)

/-- The low `8 * n` bits of a number, highest byte first. -/
def bigEndian (n x : Nat) : Bytes := (littleEndian n x).reverse

@[simp] theorem length_littleEndian (n x : Nat) : (littleEndian n x).length = n := by
  induction n generalizing x with
  | zero => rfl
  | succ n ih => simp [littleEndian, ih]

@[simp] theorem length_bigEndian (n x : Nat) : (bigEndian n x).length = n := by
  simp [bigEndian]

theorem ofLittleEndian_littleEndian (n x : Nat) (h : x < Nat.pow 256 n) :
    ofLittleEndian (littleEndian n x) = x := by
  induction n generalizing x with
  | zero => simp at h; simp [littleEndian, ofLittleEndian, h]
  | succ n ih =>
      have hx : x / 256 < Nat.pow 256 n := by
        have hs : x < Nat.pow 256 n * 256 := h
        omega
      have hb : (UInt8.ofNat (x % 256)).toNat = x % 256 := by simp
      rw [littleEndian, ofLittleEndian, ih _ hx, hb]
      omega

/-- Fill a message up to whole blocks of 64 bytes: one bit, zeros, and the length in bits
with the highest byte first. -/
def padBigEndian (message : Bytes) : Bytes :=
  message ++ [0x80] ++ List.replicate ((119 - message.length % 64) % 64) 0
    ++ bigEndian 8 (8 * message.length)

end Digest
end Gatehouse
