/-
Module: Winternitz.Hash.Word
Purpose: Machine words as the hash families read, rotate and write them.
Main exports: Word32.rotateRight, Word32.ofBigEndian, Word32.ofLittleEndian,
  Word64.rotateRight, Word64.rotateLeft, Word64.ofLittleEndian
-/
import Winternitz.Bytes

/-! ### 32-bit words -/

namespace Winternitz.Word32

/-- Rotation to the right, for distances from 1 to 31. -/
@[inline] def rotateRight (word distance : UInt32) : UInt32 :=
  (word >>> distance) ||| (word <<< (32 - distance))

/-- Four bytes as a word, the first byte lowest. -/
@[inline] def pack (b0 b1 b2 b3 : UInt8) : UInt32 :=
  b0.toUInt32 ||| (b1.toUInt32 <<< 8) ||| (b2.toUInt32 <<< 16) ||| (b3.toUInt32 <<< 24)

def ofBigEndian : Bytes → List UInt32
  | b3 :: b2 :: b1 :: b0 :: rest => pack b0 b1 b2 b3 :: ofBigEndian rest
  | _ => []

/-- The words of a byte string whose first byte is the lowest of its word. -/
def ofLittleEndian : Bytes → List UInt32
  | b0 :: b1 :: b2 :: b3 :: rest => pack b0 b1 b2 b3 :: ofLittleEndian rest
  | _ => []

def toLittleEndian (word : UInt32) : Bytes :=
  [word.toUInt8, (word >>> 8).toUInt8, (word >>> 16).toUInt8, (word >>> 24).toUInt8]

def toBigEndian (word : UInt32) : Bytes :=
  [(word >>> 24).toUInt8, (word >>> 16).toUInt8, (word >>> 8).toUInt8, word.toUInt8]

@[simp] theorem length_toLittleEndian (word : UInt32) : (toLittleEndian word).length = 4 := rfl

@[simp] theorem length_toBigEndian (word : UInt32) : (toBigEndian word).length = 4 := rfl

end Winternitz.Word32

/-! ### 64-bit words -/

namespace Winternitz.Word64

/-- Rotation to the right, for distances from 1 to 63. -/
@[inline] def rotateRight (word distance : UInt64) : UInt64 :=
  (word >>> distance) ||| (word <<< (64 - distance))

@[inline] def rotateLeft (word distance : UInt64) : UInt64 :=
  (word <<< distance) ||| (word >>> (64 - distance))

/-- Eight bytes as a word, the first byte lowest. -/
@[inline] def pack (b0 b1 b2 b3 b4 b5 b6 b7 : UInt8) : UInt64 :=
  (Word32.pack b0 b1 b2 b3).toUInt64 ||| ((Word32.pack b4 b5 b6 b7).toUInt64 <<< 32)

/-- The words of a byte string whose first byte is the lowest of its word. -/
def ofLittleEndian : Bytes → List UInt64
  | b0 :: b1 :: b2 :: b3 :: b4 :: b5 :: b6 :: b7 :: rest =>
      pack b0 b1 b2 b3 b4 b5 b6 b7 :: ofLittleEndian rest
  | _ => []

def toLittleEndian (word : UInt64) : Bytes :=
  Word32.toLittleEndian word.toUInt32 ++ Word32.toLittleEndian (word >>> 32).toUInt32

def toBigEndian (word : UInt64) : Bytes :=
  Word32.toBigEndian (word >>> 32).toUInt32 ++ Word32.toBigEndian word.toUInt32

@[simp] theorem length_toLittleEndian (word : UInt64) : (toLittleEndian word).length = 8 := rfl

@[simp] theorem length_toBigEndian (word : UInt64) : (toBigEndian word).length = 8 := rfl

end Winternitz.Word64
