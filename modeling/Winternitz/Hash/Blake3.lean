/-
Module: Winternitz.Hash.Blake3
Purpose: BLAKE3 without a key, with a digest of 32 bytes.
Main exports: Blake3.blake3_256
-/
import Winternitz.Hash.Absorber
import Winternitz.Hash.Word

namespace Winternitz.Blake3

/-! ### Compression -/

/-- Four words, one row of the matrix that a compression mixes. -/
structure Row where
  c0 : UInt32
  c1 : UInt32
  c2 : UInt32
  c3 : UInt32
deriving DecidableEq

@[inline] def Row.add (r s : Row) : Row := ⟨r.c0 + s.c0, r.c1 + s.c1, r.c2 + s.c2, r.c3 + s.c3⟩

@[inline] def Row.xor (r s : Row) : Row :=
  ⟨r.c0 ^^^ s.c0, r.c1 ^^^ s.c1, r.c2 ^^^ s.c2, r.c3 ^^^ s.c3⟩

@[inline] def Row.rotateRight (r : Row) (distance : UInt32) : Row :=
  ⟨Word32.rotateRight r.c0 distance, Word32.rotateRight r.c1 distance,
   Word32.rotateRight r.c2 distance, Word32.rotateRight r.c3 distance⟩

/-- The row with its words moved one column to the left. -/
@[inline] def Row.shift (r : Row) : Row := ⟨r.c1, r.c2, r.c3, r.c0⟩

def Row.toBytes (r : Row) : Bytes := [r.c0, r.c1, r.c2, r.c3].flatMap Word32.toLittleEndian

/-- Sixteen words in four rows: the matrix that is mixed, or the words of a block. -/
structure Matrix where
  r0 : Row
  r1 : Row
  r2 : Row
  r3 : Row

/-- Mixes all four columns at once, column `i` with the `i`-th words of the two message rows. -/
@[inline] def Matrix.mixColumns (v : Matrix) (x y : Row) : Matrix :=
  let a := (v.r0.add v.r1).add x
  let d := (v.r3.xor a).rotateRight 16
  let c := v.r2.add d
  let b := (v.r1.xor c).rotateRight 12
  let a := (a.add b).add y
  let d := (d.xor a).rotateRight 8
  let c := c.add d
  let b := (b.xor c).rotateRight 7
  ⟨a, b, c, d⟩

/-- Turns diagonals into columns. -/
@[inline] def Matrix.skew (v : Matrix) : Matrix :=
  ⟨v.r0, v.r1.shift, v.r2.shift.shift, v.r3.shift.shift.shift⟩

@[inline] def Matrix.unskew (v : Matrix) : Matrix :=
  ⟨v.r0, v.r1.shift.shift.shift, v.r2.shift.shift, v.r3.shift⟩

/-- One round: the columns with the first half of the message, the diagonals with the second. -/
def Matrix.round (v m : Matrix) : Matrix :=
  let v := v.mixColumns
    ⟨m.r0.c0, m.r0.c2, m.r1.c0, m.r1.c2⟩ ⟨m.r0.c1, m.r0.c3, m.r1.c1, m.r1.c3⟩
  let v := v.skew.mixColumns
    ⟨m.r2.c0, m.r2.c2, m.r3.c0, m.r3.c2⟩ ⟨m.r2.c1, m.r2.c3, m.r3.c1, m.r3.c3⟩
  v.unskew

/-- The order of the message words changes in the same way before every further round. -/
def Matrix.reorder (m : Matrix) : Matrix :=
  ⟨⟨m.r0.c2, m.r1.c2, m.r0.c3, m.r2.c2⟩, ⟨m.r1.c3, m.r0.c0, m.r1.c0, m.r3.c1⟩,
   ⟨m.r0.c1, m.r2.c3, m.r3.c0, m.r1.c1⟩, ⟨m.r2.c1, m.r3.c2, m.r3.c3, m.r2.c0⟩⟩

def Matrix.rounds (m : Matrix) : Nat → Matrix → Matrix
  | 0, v => v
  | count + 1, v => m.reorder.rounds count (v.round m)

/-- The words every compression starts from. -/
def initialLow : Row := ⟨0x6a09e667, 0xbb67ae85, 0x3c6ef372, 0xa54ff53a⟩

def initialHigh : Row := ⟨0x510e527f, 0x9b05688c, 0x1f83d9ab, 0x5be0cd19⟩

/-- The value that stands for the input below a node of the tree. -/
structure ChainingValue where
  low : Row
  high : Row

def ChainingValue.initial : ChainingValue := ⟨initialLow, initialHigh⟩

/-- Marks on a compression: where in the tree it stands. -/
structure Marks where
  chunkStart : Bool := false
  chunkEnd : Bool := false
  parent : Bool := false
  root : Bool := false

def Marks.toWord (marks : Marks) : UInt32 :=
  (if marks.chunkStart then 1 else 0) ||| (if marks.chunkEnd then 2 else 0) |||
    (if marks.parent then 4 else 0) ||| (if marks.root then 8 else 0)

/-- The value after one more block, of which `size` bytes are input. -/
def ChainingValue.compress (cv : ChainingValue) (block : Matrix) (counter size : Nat)
    (marks : Marks) : ChainingValue :=
  let position : Row :=
    ⟨counter.toUInt32, (counter >>> 32).toUInt32, size.toUInt32, marks.toWord⟩
  let v := block.rounds 7 ⟨cv.low, cv.high, initialLow, position⟩
  ⟨v.r0.xor v.r2, v.r1.xor v.r3⟩

/-! ### The tree -/

/-- A compression that is still to be made: whether it is the root is known only at the end. -/
structure Node where
  input : ChainingValue
  block : Matrix
  counter : Nat
  size : Nat
  marks : Marks

def Node.value (node : Node) : ChainingValue :=
  node.input.compress node.block node.counter node.size node.marks

def Node.rootValue (node : Node) : ChainingValue :=
  node.input.compress node.block node.counter node.size { node.marks with root := true }

def Node.above (left right : ChainingValue) : Node where
  input := .initial
  block := ⟨left.low, left.high, right.low, right.high⟩
  counter := 0
  size := 64
  marks := { parent := true }

/-- Up to four words as a row, missing ones being zero, and the words that are left. -/
def Row.read : List UInt32 → Row × List UInt32
  | c0 :: c1 :: c2 :: c3 :: rest => (⟨c0, c1, c2, c3⟩, rest)
  | [c0, c1, c2] => (⟨c0, c1, c2, 0⟩, [])
  | [c0, c1] => (⟨c0, c1, 0, 0⟩, [])
  | [c0] => (⟨c0, 0, 0, 0⟩, [])
  | [] => (⟨0, 0, 0, 0⟩, [])

def Matrix.ofBlock (block : Bytes) : Matrix :=
  let (r0, words) := Row.read (Word32.ofLittleEndian block)
  let (r1, words) := Row.read words
  let (r2, words) := Row.read words
  let (r3, _) := Row.read words
  ⟨r0, r1, r2, r3⟩

/-- Sixteen blocks make a chunk, and a chunk is a leaf of the tree. -/
def chunkBlocks : Nat := 16

/-- The current chunk, and the finished subtrees to its left, the nearest first. -/
structure State where
  value : ChainingValue
  blocks : Nat
  chunks : Nat
  subtrees : List ChainingValue

def State.start : State := ⟨.initial, 0, 0, []⟩

def State.node (s : State) (block : Bytes) (size : Nat) (last : Bool) : Node where
  input := s.value
  block := Matrix.ofBlock block
  counter := s.chunks
  size := size
  marks := { chunkStart := s.blocks = 0, chunkEnd := last }

/-- A new subtree is joined with its left neighbours as often as `chunks`, the
number of chunks so far, can be halved. -/
def push (value : ChainingValue) : Nat → List ChainingValue → List ChainingValue
  | _, [] => [value]
  | chunks, left :: rest =>
      if chunks % 2 = 0 then push (Node.above left value).value (chunks / 2) rest
      else value :: left :: rest

/-- Consumes a block that more input follows. -/
def State.compress (s : State) (block : Bytes) : State :=
  if s.blocks + 1 = chunkBlocks then
    let chunk := (s.node block 64 true).value
    ⟨.initial, 0, s.chunks + 1, push chunk (s.chunks + 1) s.subtrees⟩
  else
    { s with value := (s.node block 64 false).value, blocks := s.blocks + 1 }

/-- The digest: the last block ends its chunk, and the subtrees are joined from right to left. -/
def finish (s : State) (pending : Bytes) : Bytes :=
  let block := pending ++ List.replicate (64 - pending.length) 0
  let root := s.subtrees.foldl (fun node left => Node.above left node.value)
    (s.node block pending.length true)
  root.rootValue.low.toBytes ++ root.rootValue.high.toBytes

def blake3_256 : BlockHash where
  State := State
  blockSize := 64
  blockSize_pos := by decide
  start := .start
  compress := State.compress
  output s pending length := (finish s pending).take length

@[simp] theorem length_finish (s : State) (pending : Bytes) : (finish s pending).length = 32 := by
  simp [finish, Row.toBytes]

theorem length_take_finish (s : State) (pending : Bytes) (length : Nat) (fits : length ≤ 32) :
    ((finish s pending).take length).length = length := by
  simp [Nat.min_eq_left fits]

end Winternitz.Blake3
