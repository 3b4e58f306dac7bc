/-
Module: Winternitz.Fault
Purpose: Broken length contracts, and the operations that check them.
Main exports: Fault, Bytes.slice, Bytes.split, byteOf, allocated
-/
import Winternitz.Bytes

namespace Winternitz

/-!
A fault is a caller's mistake and not a property of data from outside: a buffer
of a wrong size, a position past the end, an index that does not fit into a
byte.  Every access that could go wrong is checked here, so that "nothing goes
wrong" can be stated and proved where it matters.
-/

/-- A broken length contract. -/
inductive Fault where
  /-- An output of this length was asked of a hash with digests of another size. -/
  | outputSize (expected actual : Nat)
  /-- A range reaches past the end of what it is cut from. -/
  | outOfRange (stop length : Nat)
  /-- Two things that are matched one to one differ in length. -/
  | lengthMismatch (expected actual : Nat)
  | emptyPiece
  | byteOverflow (value : Nat)
  /-- A buffer of this length cannot be allocated. -/
  | oversized (length : Nat)
deriving DecidableEq, Repr

/-- The `count` bytes from position `start` on, all of which must exist. -/
def Bytes.slice (bytes : Bytes) (start count : Nat) : Except Fault Bytes :=
  if start + count ≤ bytes.length then
    .ok ((bytes.drop start).take count)
  else
    .error (.outOfRange (start + count) bytes.length)

/-- The whole pieces of a byte string, which must not be empty ones. -/
def Bytes.split (size : Nat) (bytes : Bytes) : Except Fault (List Bytes) :=
  if size = 0 then .error .emptyPiece else .ok (Bytes.chunks size bytes)

/-- A number as a byte, which must hold it without loss. -/
def byteOf (value : Nat) : Except Fault UInt8 :=
  if value < 256 then .ok value.toUInt8 else .error (.byteOverflow value)

/-- The greatest length of a buffer. -/
def largestBuffer : Nat := 9223372036854775807

/-- The length of a new buffer, which must be one that a buffer can have. -/
def allocated (length : Nat) : Except Fault Nat :=
  if length ≤ largestBuffer then .ok length else .error (.oversized length)

theorem Bytes.slice_of_le {bytes : Bytes} {start count : Nat}
    (fits : start + count ≤ bytes.length) :
    bytes.slice start count = .ok ((bytes.drop start).take count) := by
  rw [Bytes.slice, if_pos fits]

theorem Bytes.split_of_pos {size : Nat} (positive : 0 < size) (bytes : Bytes) :
    Bytes.split size bytes = .ok (Bytes.chunks size bytes) := by
  rw [Bytes.split, if_neg (Nat.ne_of_gt positive)]

theorem byteOf_of_lt {value : Nat} (small : value < 256) :
    byteOf value = .ok value.toUInt8 := by
  rw [byteOf, if_pos small]

theorem allocated_of_le {length : Nat} (fits : length ≤ largestBuffer) :
    allocated length = .ok length := by
  rw [allocated, if_pos fits]

end Winternitz
