/-
Module: Winternitz.Digits
Purpose: The digits of a message: one per ladder.
Main exports: Params.digest, Params.digits, Params.computeDigits
-/
import Winternitz.Checksum
import Winternitz.Hash.Hasher
import Winternitz.Params

namespace Winternitz.Params

/-- The part of a message's digest that is signed. -/
def digest (params : Params) (message : Bytes) : Bytes :=
  (params.messageHash.digest message).take params.messageSize

/-- The digits of a message: the signed part of its digest, then the checksum of that part. -/
def digits (params : Params) (message : Bytes) : Bytes :=
  params.digest message ++ checksum (params.digest message)

/-- The digits of a message, computed with a hasher. -/
def computeDigits (params : Params) (message : Bytes) : Except Fault Bytes := do
  let output ← Hashing.result params.messageHash do
    Hashing.update message
    Hashing.finalize params.messageHash.size
  let digest := output.take params.messageSize
  return digest ++ checksum digest

end Winternitz.Params
