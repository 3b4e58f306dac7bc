/-
Module: Winternitz.Signature.Decode
Purpose: The public key that a signature without its tag claims for a message.
Main exports: Params.decode
-/
import Winternitz.Ladder.Compression
import Winternitz.Ladder.Traversal
import Winternitz.Report

namespace Winternitz.Params

/-- The public key that a signature body claims for a message.  Only the length
can be wrong: any bytes of the right length lead to some public key, and the
caller compares it with the expected one. -/
def decode (params : Params) (message body : Bytes) : Report PublicKey := do
  if body.length ≠ params.bodySize then
    Report.emit (.invalidSignatureLength params.bodySize body.length)
    Report.reject (.invalidSignatureLength params.bodySize body.length)
  else
    let publicSeed ← Report.ofFault (body.slice 0 seedSize)
    let (ends, _) ← Report.ofFault
      (params.traverse publicSeed (body.drop seedSize) (.decode message))
    Report.ofFault (compress publicSeed ends params.elementSize)

end Winternitz.Params
