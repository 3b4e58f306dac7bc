/-
Module: Winternitz.Hash.Family
Purpose: The hash families a parameter set can name.
Main exports: HashFamily, HashFamily.size, HashFamily.digest, length_digest, digest_short
-/
import Winternitz.Hash.Sha2
import Winternitz.Hash.Sha3
import Winternitz.Hash.Blake2b
import Winternitz.Hash.Blake3

namespace Winternitz

inductive HashFamily where
  | sha2_224
  | sha2_256
  | sha3_224
  | sha3_256
  | blake2b_256
  | blake3_256
  | shake256_2048
deriving DecidableEq, Repr

namespace HashFamily

def all : List HashFamily :=
  [sha2_224, sha2_256, sha3_224, sha3_256, blake2b_256, blake3_256, shake256_2048]

/-- The digest size in bytes.  The extendable family is read to 256 bytes,
enough for the longest digest that a message is ever cut to. -/
def size : HashFamily → Nat
  | sha2_224 | sha3_224 => 28
  | sha2_256 | sha3_256 | blake2b_256 | blake3_256 => 32
  | shake256_2048 => 256

/-- The name by which messages refer to a family. -/
def name : HashFamily → String
  | sha2_224 => "SHA2_224"
  | sha2_256 => "SHA2_256"
  | sha3_224 => "SHA3_224"
  | sha3_256 => "SHA3_256"
  | blake2b_256 => "BLAKE2B_256"
  | blake3_256 => "BLAKE3_256"
  | shake256_2048 => "SHAKE256_2048"

/-- The identifier that stands for a family in debug text. -/
def identifier : HashFamily → String
  | sha2_224 => "Sha2_224"
  | sha2_256 => "Sha2_256"
  | sha3_224 => "Sha3_224"
  | sha3_256 => "Sha3_256"
  | blake2b_256 => "Blake2b256"
  | blake3_256 => "Blake3_256"
  | shake256_2048 => "Shake256_2048"

def algorithm : HashFamily → BlockHash
  | sha2_224 => Sha2.sha224
  | sha2_256 => Sha2.sha256
  | sha3_224 => Sha3.sha3_224
  | sha3_256 => Sha3.sha3_256
  | blake2b_256 => Blake2b.blake2b256
  | blake3_256 => Blake3.blake3_256
  | shake256_2048 => Sha3.shake256

/-- The first `length` bytes of the output for `data`. -/
def outputOf (family : HashFamily) (data : Bytes) (length : Nat) : Bytes :=
  ((Absorber.fresh family.algorithm).absorb data).output length

def digest (family : HashFamily) (data : Bytes) : Bytes :=
  family.outputOf data family.size

theorem size_pos (family : HashFamily) : 0 < family.size := by
  cases family <;> decide

theorem size_le (family : HashFamily) : family.size ≤ 256 := by
  cases family <;> decide

/-- The output reaches the digest size from every state of an absorber. -/
theorem length_output (family : HashFamily) (absorber : Absorber family.algorithm) :
    (absorber.output family.size).length = family.size := by
  cases family
  case sha2_224 => exact Sha2.length_take_finish _ _ _ (by decide)
  case sha2_256 => exact Sha2.length_take_finish _ _ _ (by decide)
  case sha3_224 => exact Sha3.length_squeeze _ (by decide) _ _ (by decide)
  case sha3_256 => exact Sha3.length_squeeze _ (by decide) _ _ (by decide)
  case blake2b_256 => exact Blake2b.length_take_finish _ _ _ (by decide)
  case blake3_256 => exact Blake3.length_take_finish _ _ _ (by decide)
  case shake256_2048 => exact Sha3.length_squeeze _ (by decide) _ _ (by decide)

/-- Every digest has the size that its family declares. -/
@[simp] theorem length_digest (family : HashFamily) (data : Bytes) :
    (family.digest data).length = family.size :=
  family.length_output _

/-- Input that fits into one block goes straight into the output. -/
theorem digest_short (family : HashFamily) {data : Bytes}
    (short : data.length ≤ family.algorithm.blockSize) :
    family.digest data = family.algorithm.output family.algorithm.start data family.size := by
  change (Absorber.drain family.algorithm.start ([] ++ data)).output family.size = _
  rw [List.nil_append, Absorber.drain_short _ short]
  rfl

end HashFamily

end Winternitz
