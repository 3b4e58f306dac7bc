/-
Module: Winternitz.Signature.Claims
Purpose: What a signature body claims for a message, said without hashers or tables.
Main exports: Params.bodyValues, Params.claimedEnds, Params.claimedKey
-/
import Winternitz.Digits
import Winternitz.Ladder.Compression
import Winternitz.Ladder.Walk

namespace Winternitz.Params

/-- The ladder values in a signature body, which follow the public seed. -/
def bodyValues (params : Params) (body : Bytes) : List Bytes :=
  Bytes.chunks params.elementSize (body.drop seedSize)

/-- The last values of all ladders, each reached from the body's value by walking on from the
message's digit. -/
def claimedEnds (params : Params) (message body : Bytes) : List Bytes :=
  List.zipWith
    (fun digit value =>
      params.walk (body.take seedSize) (ladderSteps - digit.toNat) digit.toNat value)
    (params.digits message) (params.bodyValues body)

/-- The public key of these ladders. -/
def claimedKey (params : Params) (message body : Bytes) : PublicKey :=
  publicKeyOf (body.take seedSize) (params.claimedEnds message body)

end Winternitz.Params
