/-
Module: Winternitz.Bytes
Purpose: Byte strings, and the few ways in which the scheme cuts and combines them.
Main exports: Bytes, Bytes.xor, Bytes.pieces, Bytes.chunks, Bytes.xor_cancel
-/

namespace Winternitz

/-- A byte string.  Lists keep the statements about layout short: what is
hashed or sent is a chain of `++`. -/
abbrev Bytes := List UInt8

namespace Bytes

/-- Position by position exclusive or, as long as the shorter of the two. -/
def xor (left right : Bytes) : Bytes :=
  List.zipWith (· ^^^ ·) left right

/-- The first `count` pieces of `size` bytes each, one after the other. -/
def pieces (size : Nat) : Nat → Bytes → List Bytes
  | 0, _ => []
  | count + 1, bytes => bytes.take size :: pieces size count (bytes.drop size)

/-- All whole pieces of `size` bytes.  A shorter rest at the end is not a piece. -/
def chunks (size : Nat) (bytes : Bytes) : List Bytes :=
  pieces size (bytes.length / size) bytes

@[simp] theorem length_xor (left right : Bytes) :
    (xor left right).length = min left.length right.length := by
  simp [xor]

/-- A byte string that covers another one takes it away again. -/
theorem xor_cancel {value mask : Bytes} (covered : value.length ≤ mask.length) :
    (value.xor mask).xor mask = value := by
  induction value generalizing mask with
  | nil => rfl
  | cons byte value ih =>
    cases mask with
    | nil => simp at covered
    | cons other mask =>
      have rest : xor (xor value mask) mask = value := ih (by simpa using covered)
      change (byte ^^^ other ^^^ other) :: xor (xor value mask) mask = byte :: value
      rw [rest, UInt8.xor_assoc, UInt8.xor_self, UInt8.xor_zero]

@[simp] theorem length_pieces (size count : Nat) (bytes : Bytes) :
    (pieces size count bytes).length = count := by
  induction count generalizing bytes with
  | zero => rfl
  | succ count ih => simp [pieces, ih]

@[simp] theorem length_chunks (size : Nat) (bytes : Bytes) :
    (chunks size bytes).length = bytes.length / size := by
  simp [chunks]

/-- Pieces put together again give the part of the input that they cover. -/
theorem flatten_pieces (size count : Nat) (bytes : Bytes) :
    (pieces size count bytes).flatten = bytes.take (count * size) := by
  induction count generalizing bytes with
  | zero => simp [pieces]
  | succ count ih =>
    simp only [pieces, List.flatten_cons, ih]
    rw [Nat.succ_mul, Nat.add_comm, List.take_add]

end Bytes

end Winternitz
