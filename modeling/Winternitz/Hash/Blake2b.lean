/-
Module: Winternitz.Hash.Blake2b
Purpose: BLAKE2b without a key, with a digest of 32 bytes.
Main exports: Blake2b.blake2b256
-/
import Winternitz.Hash.Absorber
import Winternitz.Hash.Word

namespace Winternitz.Blake2b

/-! ### The mixing matrix -/

/-- Four words, one row of the matrix that a compression mixes. -/
structure Row where
  c0 : UInt64
  c1 : UInt64
  c2 : UInt64
  c3 : UInt64
deriving DecidableEq

@[inline] def Row.add (r s : Row) : Row := ⟨r.c0 + s.c0, r.c1 + s.c1, r.c2 + s.c2, r.c3 + s.c3⟩

@[inline] def Row.xor (r s : Row) : Row :=
  ⟨r.c0 ^^^ s.c0, r.c1 ^^^ s.c1, r.c2 ^^^ s.c2, r.c3 ^^^ s.c3⟩

@[inline] def Row.rotateRight (r : Row) (distance : UInt64) : Row :=
  ⟨Word64.rotateRight r.c0 distance, Word64.rotateRight r.c1 distance,
   Word64.rotateRight r.c2 distance, Word64.rotateRight r.c3 distance⟩

/-- The row with its words moved one column to the left. -/
@[inline] def Row.shift (r : Row) : Row := ⟨r.c1, r.c2, r.c3, r.c0⟩

def Row.toBytes (r : Row) : Bytes := [r.c0, r.c1, r.c2, r.c3].flatMap Word64.toLittleEndian

structure Matrix where
  r0 : Row
  r1 : Row
  r2 : Row
  r3 : Row

/-- Mixes all four columns at once, column `i` with the `i`-th words of the two message rows. -/
@[inline] def Matrix.mixColumns (v : Matrix) (x y : Row) : Matrix :=
  let a := (v.r0.add v.r1).add x
  let d := (v.r3.xor a).rotateRight 32
  let c := v.r2.add d
  let b := (v.r1.xor c).rotateRight 24
  let a := (a.add b).add y
  let d := (d.xor a).rotateRight 16
  let c := c.add d
  let b := (b.xor c).rotateRight 63
  ⟨a, b, c, d⟩

/-- Turns diagonals into columns. -/
@[inline] def Matrix.skew (v : Matrix) : Matrix :=
  ⟨v.r0, v.r1.shift, v.r2.shift.shift, v.r3.shift.shift.shift⟩

@[inline] def Matrix.unskew (v : Matrix) : Matrix :=
  ⟨v.r0, v.r1.shift.shift.shift, v.r2.shift.shift, v.r3.shift⟩

/-! ### Compression -/

/-- The order in which the rounds read the sixteen message words. -/
def wordOrders : List (Vector (Fin 16) 16) := [
  #v[0, 1, 2, 3, 4, 5, 6, 7, 8, 9, 10, 11, 12, 13, 14, 15],
  #v[14, 10, 4, 8, 9, 15, 13, 6, 1, 12, 0, 2, 11, 7, 5, 3],
  #v[11, 8, 12, 0, 5, 2, 15, 13, 10, 14, 3, 6, 7, 1, 9, 4],
  #v[7, 9, 3, 1, 13, 12, 11, 14, 2, 6, 5, 10, 4, 0, 15, 8],
  #v[9, 0, 5, 7, 2, 4, 10, 15, 14, 1, 11, 12, 6, 8, 3, 13],
  #v[2, 12, 6, 10, 0, 11, 8, 3, 4, 13, 7, 5, 15, 14, 1, 9],
  #v[12, 5, 1, 15, 14, 13, 4, 10, 0, 7, 6, 3, 9, 2, 8, 11],
  #v[13, 11, 7, 14, 12, 1, 3, 9, 5, 0, 15, 4, 8, 6, 2, 10],
  #v[6, 15, 14, 9, 11, 3, 0, 8, 12, 2, 13, 7, 1, 4, 10, 5],
  #v[10, 2, 8, 4, 7, 6, 1, 5, 15, 11, 9, 14, 3, 12, 13, 0],
  #v[0, 1, 2, 3, 4, 5, 6, 7, 8, 9, 10, 11, 12, 13, 14, 15],
  #v[14, 10, 4, 8, 9, 15, 13, 6, 1, 12, 0, 2, 11, 7, 5, 3]]

/-- One round: the columns, then the diagonals. -/
def Matrix.round (v : Matrix) (m : Vector UInt64 16) (o : Vector (Fin 16) 16) : Matrix :=
  let v := v.mixColumns ⟨m[o[0]], m[o[2]], m[o[4]], m[o[6]]⟩ ⟨m[o[1]], m[o[3]], m[o[5]], m[o[7]]⟩
  let v := v.skew.mixColumns
    ⟨m[o[8]], m[o[10]], m[o[12]], m[o[14]]⟩ ⟨m[o[9]], m[o[11]], m[o[13]], m[o[15]]⟩
  v.unskew

/-- The words every compression starts from. -/
def initialLow : Row :=
  ⟨0x6a09e667f3bcc908, 0xbb67ae8584caa73b, 0x3c6ef372fe94f82b, 0xa54ff53a5f1d36f1⟩

def initialHigh : Row :=
  ⟨0x510e527fade682d1, 0x9b05688c2b3e6c1f, 0x1f83d9abfb41bd6b, 0x5be0cd19137e2179⟩

/-- The chaining value, and the number of input bytes it covers. -/
structure State where
  low : Row
  high : Row
  covered : Nat

/-- The words of a block, missing ones being zero. -/
def messageWords (block : Bytes) : Vector UInt64 16 :=
  let words := (Word64.ofLittleEndian block).toArray
  Vector.ofFn fun i => words.getD i 0

/-- The state after a block of 128 bytes, of which `size` are input. -/
def State.compress (s : State) (block : Bytes) (size : Nat) (last : Bool) : State :=
  let covered := s.covered + size
  let counter : Row :=
    ⟨covered.toUInt64, (covered >>> 64).toUInt64, if last then 0xffffffffffffffff else 0, 0⟩
  let m := messageWords block
  let v : Matrix := ⟨s.low, s.high, initialLow, initialHigh.xor counter⟩
  let v := wordOrders.foldl (fun v order => v.round m order) v
  ⟨(s.low.xor v.r0).xor v.r2, (s.high.xor v.r1).xor v.r3, covered⟩

/-- The first chaining value takes in the digest size and the fan-out and depth of a single node. -/
def start : State := ⟨initialLow.xor ⟨0x01010020, 0, 0, 0⟩, initialHigh, 0⟩

/-- The digest of 32 bytes: the last block is filled up with zeros and marked as the last. -/
def finish (s : State) (pending : Bytes) : Bytes :=
  let block := pending ++ List.replicate (128 - pending.length) 0
  (s.compress block pending.length true).low.toBytes

def blake2b256 : BlockHash where
  State := State
  blockSize := 128
  blockSize_pos := by decide
  start := start
  compress s block := s.compress block 128 false
  output s pending length := (finish s pending).take length

@[simp] theorem length_finish (s : State) (pending : Bytes) : (finish s pending).length = 32 := by
  simp [finish, Row.toBytes]

theorem length_take_finish (s : State) (pending : Bytes) (length : Nat) (fits : length ≤ 32) :
    ((finish s pending).take length).length = length := by
  simp [Nat.min_eq_left fits]

end Winternitz.Blake2b
