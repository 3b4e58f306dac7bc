/-
Module: Winternitz.Parity
Purpose: Whether the bits set in a byte string are odd in number.
Main exports: setBits, oddParity
-/
import Winternitz.Bytes

namespace Winternitz

def setBits (byte : UInt8) : Nat :=
  (List.range 8).countP fun position => byte.toNat.testBit position

/-- Whether the number of bits set in a byte string is odd.  Only the lowest bit
of a count matters, so the counts are combined by exclusive or. -/
def oddParity (value : Bytes) : Bool :=
  (value.foldl (fun count byte => count ^^^ setBits byte) 0) % 2 = 1

end Winternitz
