/-
Module: Winternitz.Key.Positions
Purpose: What a key's ladders, public key and signatures are, said without hashers or tables.
Main exports: KeyMaterial.position, KeyMaterial.ends, KeyMaterial.publicKey,
  KeyMaterial.signatureOf
-/
import Winternitz.Key.Material
import Winternitz.Ladder.Walk

namespace Winternitz.KeyMaterial

/-- The first value of the ladder with a number. -/
def firstValue (material : KeyMaterial) (ladder : Nat) : Bytes :=
  (material.params.prfHash.digest (prfInput material.secretSeed.bytes ladder.toUInt8)).take
    material.params.elementSize

/-- The value of a ladder at a depth: that many steps above its first value. -/
def position (material : KeyMaterial) (depth ladder : Nat) : Bytes :=
  material.params.walk material.publicSeed.bytes depth 0 (material.firstValue ladder)

def ends (material : KeyMaterial) : List Bytes :=
  (List.range material.params.ladders).map (material.position ladderSteps)

def publicKey (material : KeyMaterial) : PublicKey :=
  publicKeyOf material.publicSeed.bytes material.ends

/-- The values that a signature reveals: of each ladder the one at the depth of its digit. -/
def revealed (material : KeyMaterial) (message : Bytes) : List Bytes :=
  List.zipWith (fun ladder digit => material.position digit.toNat ladder)
    (List.range material.params.ladders) (material.params.digits message)

/-- The signature of a message. -/
def signatureOf (material : KeyMaterial) (message : Bytes) : Bytes :=
  material.signature (material.revealed message).flatten

end Winternitz.KeyMaterial
