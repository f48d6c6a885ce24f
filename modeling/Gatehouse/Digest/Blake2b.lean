import Gatehouse.Digest.Words

/-!
BLAKE2b without a key, for digests of one to sixty-four bytes.
-/

namespace Gatehouse.Digest.Blake2b

def initial : Array UInt64 :=
  #[0x6a09e667f3bcc908, 0xbb67ae8584caa73b, 0x3c6ef372fe94f82b, 0xa54ff53a5f1d36f1,
    0x510e527fade682d1, 0x9b05688c2b3e6c1f, 0x1f83d9abfb41bd6b, 0x5be0cd19137e2179]

/-- The order in which a round takes the words of a block. Rounds ten and eleven repeat
the first two. -/
def order : Array (Array Nat) :=
  #[#[0, 1, 2, 3, 4, 5, 6, 7, 8, 9, 10, 11, 12, 13, 14, 15],
    #[14, 10, 4, 8, 9, 15, 13, 6, 1, 12, 0, 2, 11, 7, 5, 3],
    #[11, 8, 12, 0, 5, 2, 15, 13, 10, 14, 3, 6, 7, 1, 9, 4],
    #[7, 9, 3, 1, 13, 12, 11, 14, 2, 6, 5, 10, 4, 0, 15, 8],
    #[9, 0, 5, 7, 2, 4, 10, 15, 14, 1, 11, 12, 6, 8, 3, 13],
    #[2, 12, 6, 10, 0, 11, 8, 3, 4, 13, 7, 5, 15, 14, 1, 9],
    #[12, 5, 1, 15, 14, 13, 4, 10, 0, 7, 6, 3, 9, 2, 8, 11],
    #[13, 11, 7, 14, 12, 1, 3, 9, 5, 0, 15, 4, 8, 6, 2, 10],
    #[6, 15, 14, 9, 11, 3, 0, 8, 12, 2, 13, 7, 1, 4, 10, 5],
    #[10, 2, 8, 4, 7, 6, 1, 5, 15, 11, 9, 14, 3, 12, 13, 0]]

def rotate (x : UInt64) (n : UInt64) : UInt64 := (x >>> n) ||| (x <<< (64 - n))

def mix (v : Array UInt64) (ia ib ic id : Nat) (x y : UInt64) : Array UInt64 :=
  let a := v.getD ia 0 + v.getD ib 0 + x
  let d := rotate (v.getD id 0 ^^^ a) 32
  let c := v.getD ic 0 + d
  let b := rotate (v.getD ib 0 ^^^ c) 24
  let a := a + b + y
  let d := rotate (d ^^^ a) 16
  let c := c + d
  let b := rotate (b ^^^ c) 63
  (((v.setIfInBounds ia a).setIfInBounds ib b).setIfInBounds ic c).setIfInBounds id d

def round (m v : Array UInt64) (n : Nat) : Array UInt64 :=
  let s := order.getD (n % 10) #[]
  let word := fun i => m.getD (s.getD i 0) 0
  let v := mix v 0 4 8 12 (word 0) (word 1)
  let v := mix v 1 5 9 13 (word 2) (word 3)
  let v := mix v 2 6 10 14 (word 4) (word 5)
  let v := mix v 3 7 11 15 (word 6) (word 7)
  let v := mix v 0 5 10 15 (word 8) (word 9)
  let v := mix v 1 6 11 12 (word 10) (word 11)
  let v := mix v 2 7 8 13 (word 12) (word 13)
  mix v 3 4 9 14 (word 14) (word 15)

/-- Take a block of 128 bytes into the chain value. `count` is the number of message bytes
so far, this block's included. -/
def compress (h : Array UInt64) (block : Bytes) (count : Nat) (last : Bool) : Array UInt64 :=
  let m := ((pieces 8 block).map fun p => UInt64.ofNat (ofLittleEndian p)).toArray
  let v := h ++ initial
  let v := v.modify 12 (· ^^^ UInt64.ofNat count)
  let v := v.modify 13 (· ^^^ UInt64.ofNat (count / 0x10000000000000000))
  let v := if last then v.modify 14 (~~~ ·) else v
  let v := (List.range 12).foldl (round m) v
  Array.ofFn fun i : Fin 8 => h.getD i 0 ^^^ v.getD i 0 ^^^ v.getD (i + 8) 0

/-- Take in the blocks of a message; the last one is filled with zeros. -/
def absorb (h : Array UInt64) (total : Nat) : Nat → List Bytes → Array UInt64
  | _, [] => compress h (List.replicate 128 0) 0 true
  | _, [b] => compress h (b ++ List.replicate (128 - b.length) 0) total true
  | seen, b :: rest => absorb (compress h b (seen + 128) false) total (seen + 128) rest

/-- The digest of a message in `size` bytes, at most sixty-four. -/
def digest (size : Nat) (message : Bytes) : Bytes :=
  let h := initial.modify 0 (· ^^^ 0x01010000 ^^^ UInt64.ofNat size)
  let h := absorb h message.length 0 (pieces 128 message)
  (h.toList.flatMap fun w => littleEndian 8 w.toNat).take size

end Gatehouse.Digest.Blake2b
