/-
Module: Winternitz.Hash.Sha2
Purpose: The SHA-2 family on 32-bit words.
Main exports: Sha2.sha224, Sha2.sha256
-/
import Winternitz.Hash.Absorber
import Winternitz.Hash.Word

namespace Winternitz.Sha2

/-! ### Compression -/

/-- The eight working variables of a round, and the chaining value between blocks. -/
structure Words where
  a : UInt32
  b : UInt32
  c : UInt32
  d : UInt32
  e : UInt32
  f : UInt32
  g : UInt32
  h : UInt32
deriving DecidableEq

def Words.add (x y : Words) : Words :=
  ⟨x.a + y.a, x.b + y.b, x.c + y.c, x.d + y.d, x.e + y.e, x.f + y.f, x.g + y.g, x.h + y.h⟩

/-- The words as bytes, each highest byte first. -/
def Words.toBytes (w : Words) : Bytes :=
  [w.a, w.b, w.c, w.d, w.e, w.f, w.g, w.h].flatMap Word32.toBigEndian

/-- First bits of the fractional parts of the cube roots of the first 64 primes. -/
def roundConstants : Array UInt32 := #[
  0x428a2f98, 0x71374491, 0xb5c0fbcf, 0xe9b5dba5, 0x3956c25b, 0x59f111f1, 0x923f82a4, 0xab1c5ed5,
  0xd807aa98, 0x12835b01, 0x243185be, 0x550c7dc3, 0x72be5d74, 0x80deb1fe, 0x9bdc06a7, 0xc19bf174,
  0xe49b69c1, 0xefbe4786, 0x0fc19dc6, 0x240ca1cc, 0x2de92c6f, 0x4a7484aa, 0x5cb0a9dc, 0x76f988da,
  0x983e5152, 0xa831c66d, 0xb00327c8, 0xbf597fc7, 0xc6e00bf3, 0xd5a79147, 0x06ca6351, 0x14292967,
  0x27b70a85, 0x2e1b2138, 0x4d2c6dfc, 0x53380d13, 0x650a7354, 0x766a0abb, 0x81c2c92e, 0x92722c85,
  0xa2bfe8a1, 0xa81a664b, 0xc24b8b70, 0xc76c51a3, 0xd192e819, 0xd6990624, 0xf40e3585, 0x106aa070,
  0x19a4c116, 0x1e376c08, 0x2748774c, 0x34b0bcb5, 0x391c0cb3, 0x4ed8aa4a, 0x5b9cca4f, 0x682e6ff3,
  0x748f82ee, 0x78a5636f, 0x84c87814, 0x8cc70208, 0x90befffa, 0xa4506ceb, 0xbef9a3f7, 0xc67178f2]

/-- One more word of the message schedule. -/
def scheduleWord (words : Array UInt32) : UInt32 :=
  let back (distance : Nat) := words.getD (words.size - distance) 0
  let low := back 15
  let high := back 2
  let mixLow := Word32.rotateRight low 7 ^^^ Word32.rotateRight low 18 ^^^ (low >>> 3)
  let mixHigh := Word32.rotateRight high 17 ^^^ Word32.rotateRight high 19 ^^^ (high >>> 10)
  back 16 + mixLow + back 7 + mixHigh

/-- The sixteen words of a block, followed by `count` words computed from those before them. -/
def schedule (block : Bytes) : Nat → Array UInt32
  | 0 => (Word32.ofBigEndian block).toArray
  | count + 1 =>
      let words := schedule block count
      words.push (scheduleWord words)

def Words.round (w : Words) (constant message : UInt32) : Words :=
  let mixE := Word32.rotateRight w.e 6 ^^^ Word32.rotateRight w.e 11 ^^^ Word32.rotateRight w.e 25
  let choice := (w.e &&& w.f) ^^^ ((~~~ w.e) &&& w.g)
  let first := w.h + mixE + choice + constant + message
  let mixA := Word32.rotateRight w.a 2 ^^^ Word32.rotateRight w.a 13 ^^^ Word32.rotateRight w.a 22
  let majority := (w.a &&& w.b) ^^^ (w.a &&& w.c) ^^^ (w.b &&& w.c)
  ⟨first + mixA + majority, w.a, w.b, w.c, w.d + first, w.e, w.f, w.g⟩

/-- The chaining value after one more block of 64 bytes. -/
def Words.compress (chaining : Words) (block : Bytes) : Words :=
  let message := schedule block 48
  let rounds := Nat.fold 64
    (fun i _ w => w.round (roundConstants.getD i 0) (message.getD i 0)) chaining
  chaining.add rounds

/-! ### Padding and output -/

/-- Chaining value and number of the blocks consumed so far. -/
structure State where
  chaining : Words
  blocks : Nat

/-- The end of the input, filled up to whole blocks: a single one bit, zeros,
and the length of the whole input in bits. -/
def lastBlocks (blocks : Nat) (pending : Bytes) : Bytes :=
  let zeros := (119 - pending.length) % 64
  let bits := (64 * blocks + pending.length) * 8
  pending ++ [0x80] ++ List.replicate zeros 0 ++ Word64.toBigEndian bits.toUInt64

def finish (state : State) (pending : Bytes) : Bytes :=
  ((Bytes.chunks 64 (lastBlocks state.blocks pending)).foldl Words.compress state.chaining).toBytes

theorem block_pos : 0 < 64 := by decide

/-- The member of the family with the given first chaining value.  Its digest
is a beginning of the final chaining value. -/
def algorithm (initial : Words) : BlockHash where
  State := State
  blockSize := 64
  blockSize_pos := block_pos
  start := ⟨initial, 0⟩
  compress state block := ⟨state.chaining.compress block, state.blocks + 1⟩
  output state pending length := (finish state pending).take length

/-- SHA-224, whose digest is the first 28 bytes. -/
def sha224 : BlockHash := algorithm
  ⟨0xc1059ed8, 0x367cd507, 0x3070dd17, 0xf70e5939, 0xffc00b31, 0x68581511, 0x64f98fa7, 0xbefa4fa4⟩

def sha256 : BlockHash := algorithm
  ⟨0x6a09e667, 0xbb67ae85, 0x3c6ef372, 0xa54ff53a, 0x510e527f, 0x9b05688c, 0x1f83d9ab, 0x5be0cd19⟩

@[simp] theorem length_finish (state : State) (pending : Bytes) :
    (finish state pending).length = 32 := rfl

theorem length_take_finish (state : State) (pending : Bytes) (length : Nat) (fits : length ≤ 32) :
    ((finish state pending).take length).length = length := by
  simp [Nat.min_eq_left fits]

end Winternitz.Sha2
