import Gatehouse.Digest.Blake2b

/-!
Argon2id, version 19. Memory is a table of `lanes` rows; it is filled in passes of four
slices. In the first half of the first pass the block to mix in is chosen by a counter,
afterwards by the block written last.
-/

namespace Gatehouse.Digest.Argon2

/-- The cost of a digest: memory in kibibytes, passes over it, lanes. -/
structure Cost where
  memory : Nat
  passes : Nat
  lanes : Nat
  deriving DecidableEq, Repr

/-- A block is 128 words. -/
abbrev Block := Array UInt64

def version : Nat := 19

/-- The code of the variant that mixes both ways of choosing blocks. -/
def variant : Nat := 2

/-- The bytes of the longest password, whose length is digested in four bytes. -/
def maxPassword : Nat := 0xFFFFFFFF

/-- The bytes of the shortest salt. -/
def minSalt : Nat := 8

structure Quad where
  a : UInt64
  b : UInt64
  c : UInt64
  d : UInt64

@[inline] def rotate (x : UInt64) (n : UInt64) : UInt64 := (x >>> n) ||| (x <<< (64 - n))

/-- A sum with the doubled product of the low halves. -/
@[inline] def blend (x y : UInt64) : UInt64 :=
  x + y + 2 * ((x &&& 0xFFFFFFFF) * (y &&& 0xFFFFFFFF))

@[inline] def mix (a b c d : UInt64) : Quad :=
  let a := blend a b
  let d := rotate (d ^^^ a) 32
  let c := blend c d
  let b := rotate (b ^^^ c) 24
  let a := blend a b
  let d := rotate (d ^^^ a) 16
  let c := blend c d
  let b := rotate (b ^^^ c) 63
  ⟨a, b, c, d⟩

/-- Mix the sixteen words that `at` names: first the columns of the four-by-four square that
they form, then its diagonals. -/
@[inline] def permute (place : Nat → Nat) (v : Block) : Block :=
  let w := fun k => v.getD (place k) 0
  let ⟨v0, v4, v8, v12⟩ := mix (w 0) (w 4) (w 8) (w 12)
  let ⟨v1, v5, v9, v13⟩ := mix (w 1) (w 5) (w 9) (w 13)
  let ⟨v2, v6, v10, v14⟩ := mix (w 2) (w 6) (w 10) (w 14)
  let ⟨v3, v7, v11, v15⟩ := mix (w 3) (w 7) (w 11) (w 15)
  let ⟨v0, v5, v10, v15⟩ := mix v0 v5 v10 v15
  let ⟨v1, v6, v11, v12⟩ := mix v1 v6 v11 v12
  let ⟨v2, v7, v8, v13⟩ := mix v2 v7 v8 v13
  let ⟨v3, v4, v9, v14⟩ := mix v3 v4 v9 v14
  let v := v.setIfInBounds (place 0) v0
  let v := v.setIfInBounds (place 1) v1
  let v := v.setIfInBounds (place 2) v2
  let v := v.setIfInBounds (place 3) v3
  let v := v.setIfInBounds (place 4) v4
  let v := v.setIfInBounds (place 5) v5
  let v := v.setIfInBounds (place 6) v6
  let v := v.setIfInBounds (place 7) v7
  let v := v.setIfInBounds (place 8) v8
  let v := v.setIfInBounds (place 9) v9
  let v := v.setIfInBounds (place 10) v10
  let v := v.setIfInBounds (place 11) v11
  let v := v.setIfInBounds (place 12) v12
  let v := v.setIfInBounds (place 13) v13
  let v := v.setIfInBounds (place 14) v14
  v.setIfInBounds (place 15) v15

def permuteRow (v : Block) (row : Nat) : Block := permute (fun k => 16 * row + k) v

def permuteColumn (v : Block) (column : Nat) : Block :=
  permute (fun k => 16 * (k / 2) + 2 * column + k % 2) v

def xor (x y : Block) : Block := x.zipWith (· ^^^ ·) y

/-- The block that two blocks compress to. -/
def compress (x y : Block) : Block :=
  let r := xor x y
  let z := (List.range 8).foldl permuteRow r
  xor r ((List.range 8).foldl permuteColumn z)

def zeroBlock : Block := Array.replicate 128 0

/-- Chain digests of sixty-four bytes and keep half of each, until at most sixty-four bytes
are missing. -/
def stretch (value : Bytes) : Nat → Nat → Bytes
  | 0, missing => Blake2b.digest missing value
  | fuel + 1, missing =>
      if missing ≤ 64 then Blake2b.digest missing value
      else
        let next := Blake2b.digest 64 value
        next.take 32 ++ stretch next fuel (missing - 32)

/-- A digest of any length; the length is part of what is digested. -/
def longDigest (size : Nat) (message : Bytes) : Bytes :=
  stretch (littleEndian 4 size ++ message) size size

def Block.ofBytes (bytes : Bytes) : Block :=
  ((pieces 8 bytes).map fun p => UInt64.ofNat (ofLittleEndian p)).toArray

def Block.toBytes (b : Block) : Bytes := b.toList.flatMap fun w => littleEndian 8 w.toNat

/-- Blocks in one quarter of a lane. -/
def Cost.segment (c : Cost) : Nat := c.memory / (4 * c.lanes)

/-- Blocks in a lane. -/
def Cost.laneLength (c : Cost) : Nat := 4 * c.segment

/-- The block being written: its pass, slice, lane and place in the segment. -/
structure Position where
  pass : Nat
  slice : Nat
  lane : Nat
  index : Nat

/-- In the first half of the first pass the choice of blocks does not depend on data. -/
def Position.isIndependent (p : Position) : Bool := p.pass == 0 && p.slice < 2

/-- The pseudo-random words for 128 places of a segment chosen independently of data. -/
def addresses (c : Cost) (p : Position) : Block :=
  let input := #[p.pass, p.lane, p.slice, 4 * c.lanes * c.segment, c.passes, variant,
    p.index / 128 + 1].map UInt64.ofNat ++ Array.replicate 121 0
  compress zeroBlock (compress zeroBlock input)

/-- How many blocks may be mixed in at a place, in the lane being written or in another. -/
def reachable (c : Cost) (p : Position) (sameLane : Bool) : Nat :=
  let finished := if p.pass = 0 then p.slice * c.segment else c.laneLength - c.segment
  if sameLane then finished + p.index - 1
  else if p.index = 0 then finished - 1 else finished

/-- The place in the table of the block that a pseudo-random word points at. -/
def reference (c : Cost) (p : Position) (word : UInt64) : Nat :=
  let j1 := word.toNat % 0x100000000
  let j2 := word.toNat / 0x100000000
  let lane := if p.pass = 0 ∧ p.slice = 0 then p.lane else j2 % c.lanes
  let count := reachable c p (lane == p.lane)
  let back := count * (j1 * j1 / 0x100000000) / 0x100000000
  let start := if p.pass = 0 ∨ p.slice = 3 then 0 else (p.slice + 1) * c.segment
  lane * c.laneLength + (start + (count - 1 - back)) % c.laneLength

/-- The table, and the words that choose blocks in the segment being written. -/
structure Memory where
  blocks : Array Block
  words : Block

/-- Write one block. -/
def fillBlock (c : Cost) (m : Memory) (p : Position) : Memory :=
  let column := p.slice * c.segment + p.index
  let row := p.lane * c.laneLength
  let previous := m.blocks.getD (row + (if column = 0 then c.laneLength else column) - 1) #[]
  let words :=
    if p.isIndependent && (p.index % 128 == 0 || (p.slice == 0 && p.index == 2)) then
      addresses c p
    else m.words
  let word :=
    if p.isIndependent then words.getD (p.index % 128) 0 else previous.getD 0 0
  let fresh := compress previous (m.blocks.getD (reference c p word) #[])
  let blocks := m.blocks
  if p.pass = 0 then ⟨blocks.setIfInBounds (row + column) fresh, words⟩
  else
    let old := blocks.getD (row + column) #[]
    ⟨blocks.setIfInBounds (row + column) (xor old fresh), words⟩

/-- Write the blocks of a segment from `index` on. -/
def fillSegment (c : Cost) (pass slice lane : Nat) : Nat → Nat → Memory → Memory
  | 0, _, m => m
  | count + 1, index, m =>
      fillSegment c pass slice lane count (index + 1) (fillBlock c m ⟨pass, slice, lane, index⟩)

def fillSlice (c : Cost) (m : Memory) (pass slice : Nat) : Memory :=
  (List.range c.lanes).foldl (fun m lane =>
    let first := if pass = 0 ∧ slice = 0 then 2 else 0
    fillSegment c pass slice lane (c.segment - first) first m) m

def fillPass (c : Cost) (m : Memory) (pass : Nat) : Memory :=
  (List.range 4).foldl (fun m slice => fillSlice c m pass slice) m

/-- A byte string with its length in front. -/
def counted (bytes : Bytes) : Bytes := littleEndian 4 bytes.length ++ bytes

/-- The digest that everything else starts from. -/
def seed (c : Cost) (size : Nat) (password salt context : Bytes) : Bytes :=
  Blake2b.digest 64 (littleEndian 4 c.lanes ++ littleEndian 4 size ++ littleEndian 4 c.memory
    ++ littleEndian 4 c.passes ++ littleEndian 4 version ++ littleEndian 4 variant
    ++ counted password ++ counted salt ++ counted [] ++ counted context)

/-- The table with the first two blocks of every lane. -/
def start (c : Cost) (seed : Bytes) : Array Block :=
  (List.range c.lanes).foldl (fun blocks lane =>
    let first := fun n =>
      Block.ofBytes (longDigest 1024 (seed ++ littleEndian 4 n ++ littleEndian 4 lane))
    (blocks.setIfInBounds (lane * c.laneLength) (first 0)).setIfInBounds
      (lane * c.laneLength + 1) (first 1))
    (Array.replicate (c.lanes * c.laneLength) #[])

/-- The digest of a password in `size` bytes. -/
def digest (c : Cost) (size : Nat) (password salt context : Bytes) : Bytes :=
  let memory : Memory := ⟨start c (seed c size password salt context), #[]⟩
  let memory := (List.range c.passes).foldl (fillPass c) memory
  let last := (List.range c.lanes).foldl (fun sum lane =>
    xor sum (memory.blocks.getD ((lane + 1) * c.laneLength - 1) #[])) zeroBlock
  longDigest size last.toBytes

end Gatehouse.Digest.Argon2
