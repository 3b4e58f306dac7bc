/-
Module: Winternitz.Key.Material
Purpose: The seeds of a key, and everything that follows from them.
Main exports: Seed, KeyMaterial, KeyMaterial.derivePublicKey, KeyMaterial.record,
  KeyMaterial.signByWalking, KeyMaterial.signByTable
-/
import Winternitz.Ladder.Compression
import Winternitz.Ladder.Traversal
import Winternitz.Level

namespace Winternitz

structure Seed where
  bytes : Bytes
  length_eq : bytes.length = seedSize
deriving DecidableEq

/-- The parameters and seeds of a key.  They determine its public key, its
ladders and its signatures. -/
structure KeyMaterial where
  params : Params
  secretSeed : Seed
  publicSeed : Seed
deriving DecidableEq

namespace KeyMaterial

/-- The first value of the ladder with a number. -/
def secretElement (params : Params) (secretSeed : Bytes) (ladder : Nat) :
    Hashing params.prfHash Bytes := do
  let number ← byteOf ladder
  let output ← prf secretSeed number params.prfHash.size
  output.slice 0 params.elementSize

/-- The first values of all ladders, one after the other. -/
def secretElements (material : KeyMaterial) : Except Fault Bytes :=
  Hashing.result material.params.prfHash do
    let elements ← (List.range material.params.ladders).mapM
      (secretElement material.params material.secretSeed.bytes)
    return elements.flatten

def traverse (material : KeyMaterial) (points : Bytes) (traversal : Traversal material.params) :
    Except Fault (Bytes × Option material.params.Positions) :=
  material.params.traverse material.publicSeed.bytes points traversal

/-- The public key, from walking every ladder to its end. -/
def derivePublicKey (material : KeyMaterial) : Except Fault PublicKey := do
  let points ← material.secretElements
  let (ends, _) ← material.traverse points .full
  compress material.publicSeed.bytes ends material.params.elementSize

/-- All positions of all ladders, and the public key. -/
def record (material : KeyMaterial) : Except Fault (material.params.Positions × PublicKey) := do
  let points ← material.secretElements
  let table ← (Table.empty material.params.elementSize material.params.ladders).putRow 0 points
  let (ends, recorded) ← material.traverse points (.record table)
  let publicKey ← compress material.publicSeed.bytes ends material.params.elementSize
  let some positions := recorded | throw (.lengthMismatch 1 0)
  return (positions, publicKey)

/-- A signature with these ladder values: the tag, the public seed and the values. -/
def signature (material : KeyMaterial) (values : Bytes) : Bytes :=
  Level.tagOf material.params :: (material.publicSeed.bytes ++ values)

/-- The signature of a message, from walking every ladder up to its digit. -/
def signByWalking (material : KeyMaterial) (message : Bytes) : Except Fault Bytes := do
  let points ← material.secretElements
  let (values, _) ← material.traverse points (.sign message)
  return material.signature values

/-- The values of a message's digits in a table: each ladder's at the depth of its digit. -/
def lookUp {elementSize ladders : Nat} (table : Table elementSize ladders) :
    (ladder : Nat) → (digits : Bytes) → Except Fault (List Bytes)
  | _, [] => .ok []
  | ladder, digit :: digits => do
      let value ← table.element digit.toNat ladder
      let values ← lookUp table (ladder + 1) digits
      return value :: values

/-- The signature of a message, from the recorded positions. -/
def signByTable (material : KeyMaterial) (positions : material.params.Positions) (message : Bytes) :
    Except Fault Bytes := do
  let digits ← material.params.computeDigits message
  let values ← lookUp positions 0 digits
  return material.signature values.flatten

end KeyMaterial

end Winternitz
