/-
Module: Winternitz.Signature.Dispatch
Purpose: Signatures whose first byte selects the parameter set, and the rules for transactions.
Main exports: decodeSignature, decodeTransaction, verifyTransaction
-/
import Winternitz.Level
import Winternitz.Signature.Decode

namespace Winternitz

def levelOfTag (tag : UInt8) : Report Level :=
  match Level.ofTag tag with
  | .ok level => .ofValue level
  | .error error => do
      Report.emit (.unknownEncoding tag)
      Report.reject error

/-- The public key that a signature claims for a message, at whichever level its tag names. -/
def decodeSignature (message : Bytes) : (signature : Bytes) → Report PublicKey
  | [] => .reject .emptyInput
  | tag :: body => do
      let level ← levelOfTag tag
      level.params.decode message body

/-- The public key that a transaction's signature claims.  Nothing may be empty,
and the consensus level is refused whatever follows its tag. -/
def decodeTransaction (message signature : Bytes) : Report PublicKey := do
  if message.isEmpty ∨ signature.isEmpty then
    Report.emit (.emptyTransaction message.length signature.length)
    Report.reject .emptyInput
  else if signature.head? = some Level.consensus.tag then
    Report.emit .consensusTransaction
    Report.reject .consensusNotAllowed
  else
    decodeSignature message signature

/-- Whether a transaction's signature was made with the expected public key. -/
def verifyTransaction (expected message signature : Bytes) : Report Bool := do
  let publicKey ← decodeTransaction message signature
  return publicKey == expected

end Winternitz
