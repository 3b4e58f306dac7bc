/-
Module: Winternitz.Hash.Sha3
Purpose: The Keccak permutation and the sponges built on it.
Main exports: Sha3.State.permute, Sha3.sponge, Sha3.sha3_224, Sha3.sha3_256, Sha3.shake256
-/
import Winternitz.Hash.Absorber
import Winternitz.Hash.Word

namespace Winternitz.Sha3

/-! ### The permutation -/

/-- Five lanes that share their second coordinate. -/
structure Plane where
  x0 : UInt64
  x1 : UInt64
  x2 : UInt64
  x3 : UInt64
  x4 : UInt64
deriving DecidableEq

/-- The 25 lanes of the sponge, plane after plane. -/
structure State where
  y0 : Plane
  y1 : Plane
  y2 : Plane
  y3 : Plane
  y4 : Plane
deriving DecidableEq

@[inline] def Plane.xor (p q : Plane) : Plane :=
  ⟨p.x0 ^^^ q.x0, p.x1 ^^^ q.x1, p.x2 ^^^ q.x2, p.x3 ^^^ q.x3, p.x4 ^^^ q.x4⟩

def Plane.zero : Plane := ⟨0, 0, 0, 0, 0⟩

def State.zero : State := ⟨.zero, .zero, .zero, .zero, .zero⟩

@[inline] def State.columns (s : State) : Plane :=
  (((s.y0.xor s.y1).xor s.y2).xor s.y3).xor s.y4

/-- What each column receives from its neighbours: the parity of the one
before, and the parity of the one after, turned by one. -/
@[inline] def Plane.spread (c : Plane) : Plane :=
  ⟨c.x4 ^^^ Word64.rotateLeft c.x1 1, c.x0 ^^^ Word64.rotateLeft c.x2 1,
   c.x1 ^^^ Word64.rotateLeft c.x3 1, c.x2 ^^^ Word64.rotateLeft c.x4 1,
   c.x3 ^^^ Word64.rotateLeft c.x0 1⟩

/-- First step of a round: every lane takes in two column parities. -/
@[inline] def State.diffuse (s : State) : State :=
  let d := s.columns.spread
  ⟨s.y0.xor d, s.y1.xor d, s.y2.xor d, s.y3.xor d, s.y4.xor d⟩

/-- Second step: every lane is turned by its own distance and moved to its new place. -/
@[inline] def State.scatter (s : State) : State :=
  ⟨⟨s.y0.x0, Word64.rotateLeft s.y1.x1 44, Word64.rotateLeft s.y2.x2 43,
    Word64.rotateLeft s.y3.x3 21, Word64.rotateLeft s.y4.x4 14⟩,
   ⟨Word64.rotateLeft s.y0.x3 28, Word64.rotateLeft s.y1.x4 20, Word64.rotateLeft s.y2.x0 3,
    Word64.rotateLeft s.y3.x1 45, Word64.rotateLeft s.y4.x2 61⟩,
   ⟨Word64.rotateLeft s.y0.x1 1, Word64.rotateLeft s.y1.x2 6, Word64.rotateLeft s.y2.x3 25,
    Word64.rotateLeft s.y3.x4 8, Word64.rotateLeft s.y4.x0 18⟩,
   ⟨Word64.rotateLeft s.y0.x4 27, Word64.rotateLeft s.y1.x0 36, Word64.rotateLeft s.y2.x1 10,
    Word64.rotateLeft s.y3.x2 15, Word64.rotateLeft s.y4.x3 56⟩,
   ⟨Word64.rotateLeft s.y0.x2 62, Word64.rotateLeft s.y1.x3 55, Word64.rotateLeft s.y2.x4 39,
    Word64.rotateLeft s.y3.x0 41, Word64.rotateLeft s.y4.x1 2⟩⟩

/-- Third step within a plane, the only one that is not linear. -/
@[inline] def Plane.bend (p : Plane) : Plane :=
  ⟨p.x0 ^^^ ((~~~ p.x1) &&& p.x2), p.x1 ^^^ ((~~~ p.x2) &&& p.x3), p.x2 ^^^ ((~~~ p.x3) &&& p.x4),
   p.x3 ^^^ ((~~~ p.x4) &&& p.x0), p.x4 ^^^ ((~~~ p.x0) &&& p.x1)⟩

/-- One round, ending with its constant in the first lane. -/
def State.round (s : State) (constant : UInt64) : State :=
  let t := s.diffuse.scatter
  let first := t.y0.bend
  ⟨⟨first.x0 ^^^ constant, first.x1, first.x2, first.x3, first.x4⟩,
   t.y1.bend, t.y2.bend, t.y3.bend, t.y4.bend⟩

def roundConstants : List UInt64 := [
  0x0000000000000001, 0x0000000000008082, 0x800000000000808a, 0x8000000080008000,
  0x000000000000808b, 0x0000000080000001, 0x8000000080008081, 0x8000000000008009,
  0x000000000000008a, 0x0000000000000088, 0x0000000080008009, 0x000000008000000a,
  0x000000008000808b, 0x800000000000008b, 0x8000000000008089, 0x8000000000008003,
  0x8000000000008002, 0x8000000000000080, 0x000000000000800a, 0x800000008000000a,
  0x8000000080008081, 0x8000000000008080, 0x0000000080000001, 0x8000000080008008]

def State.permute (s : State) : State := roundConstants.foldl State.round s

/-! ### Lanes and bytes -/

/-- Up to five words as a plane, missing ones being zero, and the words that are left. -/
def Plane.read : List UInt64 → Plane × List UInt64
  | x0 :: x1 :: x2 :: x3 :: x4 :: rest => (⟨x0, x1, x2, x3, x4⟩, rest)
  | [x0, x1, x2, x3] => (⟨x0, x1, x2, x3, 0⟩, [])
  | [x0, x1, x2] => (⟨x0, x1, x2, 0, 0⟩, [])
  | [x0, x1] => (⟨x0, x1, 0, 0, 0⟩, [])
  | [x0] => (⟨x0, 0, 0, 0, 0⟩, [])
  | [] => (.zero, [])

/-- A block laid over the first lanes; the others are zero. -/
def State.ofBlock (block : Bytes) : State :=
  let (y0, words) := Plane.read (Word64.ofLittleEndian block)
  let (y1, words) := Plane.read words
  let (y2, words) := Plane.read words
  let (y3, words) := Plane.read words
  let (y4, _) := Plane.read words
  ⟨y0, y1, y2, y3, y4⟩

def Plane.lanes (p : Plane) : List UInt64 := [p.x0, p.x1, p.x2, p.x3, p.x4]

def State.toBytes (s : State) : Bytes :=
  (s.y0.lanes ++ s.y1.lanes ++ s.y2.lanes ++ s.y3.lanes ++ s.y4.lanes).flatMap Word64.toLittleEndian

def State.absorbBlock (s : State) (block : Bytes) : State :=
  let b := State.ofBlock block
  State.permute ⟨s.y0.xor b.y0, s.y1.xor b.y1, s.y2.xor b.y2, s.y3.xor b.y3, s.y4.xor b.y4⟩

/-! ### The sponge -/

/-- The end of the input (at most one block) filled up to whole blocks: the
suffix that separates the uses of the permutation, zeros, and a last one bit,
which may share a byte with the suffix. -/
def lastBlocks (rate : Nat) (suffix : UInt8) (pending : Bytes) : Bytes :=
  let free := rate - pending.length % rate
  pending ++
    if free = 1 then [suffix ||| 0x80]
    else suffix :: List.replicate (free - 2) 0 ++ [0x80]

/-- That many bytes of output, up to `rate` of them from each state. -/
def squeeze (rate : Nat) (positive : 0 < rate) (state : State) (length : Nat) : Bytes :=
  if length ≤ rate then state.toBytes.take length
  else state.toBytes.take rate ++ squeeze rate positive state.permute (length - rate)
termination_by length

/-- The sponge with blocks of `rate` bytes. -/
def sponge (rate : Nat) (positive : 0 < rate) (suffix : UInt8) : BlockHash where
  State := State
  blockSize := rate
  blockSize_pos := positive
  start := .zero
  compress := State.absorbBlock
  output state pending length :=
    squeeze rate positive
      ((Bytes.chunks rate (lastBlocks rate suffix pending)).foldl State.absorbBlock state) length

def sha3_224 : BlockHash := sponge 144 (by decide) 0x06

def sha3_256 : BlockHash := sponge 136 (by decide) 0x06

/-- SHAKE256, whose output has no fixed length. -/
def shake256 : BlockHash := sponge 136 (by decide) 0x1f

@[simp] theorem length_toBytes (s : State) : s.toBytes.length = 200 := by
  simp [State.toBytes, Plane.lanes]

/-- The sponge gives as many bytes as it is asked for. -/
theorem length_squeeze (rate : Nat) (positive : 0 < rate) (state : State) (length : Nat)
    (fits : rate ≤ 200) : (squeeze rate positive state length).length = length := by
  fun_induction squeeze rate positive state length with
  | case1 state length short => simp; omega
  | case2 state length long ih => simp [ih]; omega

end Winternitz.Sha3
