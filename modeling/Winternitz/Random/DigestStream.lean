/-
Module: Winternitz.Random.DigestStream
Purpose: A reproducible source: digests of a seed and a counter.
Main exports: DigestStream, DigestStream.block, DigestStream.take
-/
import Winternitz.Hash.Word
import Winternitz.Random.Source

namespace Winternitz

/-- A source that follows from a seed.  The counter is the number of the next block. -/
structure DigestStream where
  seed : Bytes
  counter : UInt64

namespace DigestStream

def hash : HashFamily := .sha2_256

/-- The block with a number: the hash of the seed and that number, lowest byte first. -/
def block (seed : Bytes) (number : UInt64) : Bytes :=
  hash.digest (seed ++ Word64.toLittleEndian number)

def start (seed : Bytes) : DigestStream := ⟨seed, 0⟩

/-- The next `length` bytes, each block being used for one read only: what a
read leaves over of its last block is dropped.  Every block is a digest of its
own here; a hasher that is kept for all of them gives the same. -/
def take (stream : DigestStream) (length : Nat) : Bytes × DigestStream :=
  if length = 0 then ([], stream)
  else
    let next := block stream.seed stream.counter
    let (rest, after) := take ⟨stream.seed, stream.counter + 1⟩ (length - hash.size)
    (next.take length ++ rest, after)
termination_by length
decreasing_by
  have positive := hash.size_pos
  omega

/-- A read always gets as many bytes as it asks for. -/
theorem length_take (stream : DigestStream) (length : Nat) :
    (stream.take length).1.length = length := by
  fun_induction take stream length with
  | case1 => rfl
  | case2 stream length more next rest after taken ih =>
    simp only [taken] at ih
    simp only [List.length_append, List.length_take, ih, next, block, HashFamily.length_digest]
    omega

instance : ByteSource DigestStream where
  read stream length :=
    let taken := stream.take length
    (.ok (.filled taken.1 (stream.length_take length)), taken.2)

end DigestStream

end Winternitz
