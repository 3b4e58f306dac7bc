/-
Module: Winternitz.Random.Source
Purpose: Sources of random bytes, as a key sees them.
Main exports: Reading, ByteSource, ByteSource.readEach
-/
import Winternitz.Error

namespace Winternitz

/-- What a read leaves in a zeroed buffer of a given length, and how many bytes
the source claims to have written.  The claim may be wrong in both directions. -/
structure Reading (length : Nat) where
  bytes : Bytes
  count : Nat
  length_eq : bytes.length = length

/-- A source that fills buffers.  Every read, also a failed one, may change the source. -/
class ByteSource (Source : Type) where
  read : Source → (length : Nat) → Except RandomError (Reading length) × Source

/-- What reads of these lengths give one after the other, each with the count that it claims, and the
source after all of them.  A failed read does not keep the next one from being made. -/
def ByteSource.readEach {Source : Type} [ByteSource Source] (source : Source) :
    List Nat → List (Except RandomError (Nat × Bytes)) × Source
  | [] => ([], source)
  | length :: lengths =>
      let (outcome, source) := ByteSource.read source length
      let (outcomes, source) := ByteSource.readEach source lengths
      (outcome.map (fun reading => (reading.count, reading.bytes)) :: outcomes, source)

/-- The reading of a source that fills the whole buffer and says so. -/
def Reading.filled {length : Nat} (bytes : Bytes) (length_eq : bytes.length = length) :
    Reading length :=
  ⟨bytes, length, length_eq⟩

/-- Bytes as they stand in a zeroed buffer: cut to its length, or followed by zeros. -/
def padTo (length : Nat) (bytes : Bytes) : Bytes :=
  bytes.take length ++ List.replicate (length - bytes.length) 0

@[simp] theorem length_padTo (length : Nat) (bytes : Bytes) :
    (padTo length bytes).length = length := by
  simp only [padTo, List.length_append, List.length_take, List.length_replicate]
  omega

end Winternitz
