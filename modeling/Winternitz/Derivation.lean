/-
Module: Winternitz.Derivation
Purpose: Values derived from a seed: secret elements, masking elements and chain steps.
Main exports: prfInput, chainInput, prf, chain, masksLength, masksLength_eq, maskingElements
-/
import Winternitz.Hash.Hasher

namespace Winternitz

/-!
All derivations hash a seed followed by one byte that says which value is
wanted.  Each first empties the hasher that it is given, so what was hashed
before never shows.
-/

/-! ### What is hashed -/

/-- The input for the value with a number under a seed. -/
def prfInput (seed : Bytes) (index : UInt8) : Bytes := seed ++ [index]

/-- The input for the step that reaches a depth, with the masked value of the depth before. -/
def chainInput (publicSeed : Bytes) (depth : UInt8) (masked : Bytes) : Bytes :=
  publicSeed ++ [depth] ++ masked

/-! ### Hashing it -/

variable {family : HashFamily}

/-- The value with a number under a seed, `length` bytes of it. -/
def prf (seed : Bytes) (index : UInt8) (length : Nat) : Hashing family Bytes := do
  Hashing.reset
  Hashing.update seed
  Hashing.update [index]
  Hashing.finalize length

/-- One step up a ladder, to `depth`, from the masked value of the depth before. -/
def chain (publicSeed : Bytes) (depth : UInt8) (masked : Bytes) (length : Nat) :
    Hashing family Bytes := do
  Hashing.reset
  Hashing.update publicSeed
  Hashing.update [depth]
  Hashing.update masked
  Hashing.finalize length

/-- The number of steps on a whole ladder, and so of masking elements. -/
def ladderSteps : Nat := 255

/-- A digit is the depth of a position on every ladder. -/
theorem toNat_le_ladderSteps (digit : UInt8) : digit.toNat ≤ ladderSteps :=
  Nat.le_of_lt_succ digit.toNat_lt

/-- The masking element for the step that leaves depth `index`.  It has the
number of the depth that the step reaches, so that no masking element has the
number zero. -/
def maskingElement (size : Nat) (publicSeed : Bytes) (index : Nat) : Hashing family Bytes := do
  let number ← byteOf (index + 1)
  let output ← prf publicSeed number family.size
  output.slice 0 size

/-- The length of a buffer for the masking elements of all steps: a product of machine words. -/
def masksLength (size : Nat) : Nat := (ladderSteps.toUInt64 * size.toUInt64).toNat

/-- A product that is too large for a word loses its highest part. -/
theorem masksLength_eq (size : Nat) : masksLength size = ladderSteps * size % UInt64.size := by
  rw [masksLength, UInt64.toNat_mul, Nat.toUInt64_eq, Nat.toUInt64_eq, UInt64.toNat_ofNat',
    UInt64.toNat_ofNat', ← Nat.mul_mod]

theorem masksLength_of_lt {size : Nat} (fits : ladderSteps * size < UInt64.size) :
    masksLength size = ladderSteps * size := by
  rw [masksLength_eq, Nat.mod_eq_of_lt fits]

/-- The end of a buffer that is not covered by whole pieces, still zero. -/
def uncovered (size length : Nat) : List Bytes :=
  if length % size = 0 then [] else [List.replicate (length % size) 0]

/-- The masking elements of all steps, each `size` bytes long: one for every whole
piece of the buffer for them. -/
def maskingElements (size : Nat) (publicSeed : Bytes) : Hashing family (List Bytes) := do
  let length ← allocated (masksLength size)
  if size = 0 then
    throw .emptyPiece
  let masks ← (List.range (length / size)).mapM (maskingElement size publicSeed)
  return masks ++ uncovered size length

end Winternitz
