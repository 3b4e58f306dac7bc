/-
Module: Winternitz.Params.Validation
Purpose: The checks that a parameter set passes.
Main exports: Params.new
-/
import Winternitz.Error

namespace Winternitz

/-- A parameter set from two sizes and two hashes.  The sizes are checked
first, then what they ask of the hashes. -/
def Params.new (elementSize messageSize : Nat) (prfHash messageHash : HashFamily) :
    Except Error Params :=
  if element : elementSize = 0 then
    .error (.invalidElementSize elementSize)
  else if message : messageSize < 1 ∨ maxMessageSize < messageSize then
    .error (.invalidMessageSize messageSize)
  else if prf : prfHash.size < elementSize then
    .error (.hashTooSmall .prf prfHash elementSize)
  else if digest : messageHash.size < messageSize then
    .error (.hashTooSmall .message messageHash messageSize)
  else
    .ok {
      elementSize, messageSize, prfHash, messageHash
      elementSize_pos := by omega
      messageSize_pos := by omega
      messageSize_le := by omega
      elementSize_fits := by omega
      messageSize_fits := by omega }

end Winternitz
