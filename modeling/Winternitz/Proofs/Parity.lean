/-
Module: Winternitz.Proofs.Parity
Purpose: The ladder ends in the tweak are those with an odd number of bits set in all their bytes.
Main exports: Bytes.bitSum, setBits_eq_cpop, oddParity_eq, oddParity_append, compress_ends
-/
import Mathlib.Data.Nat.Bitwise
import Winternitz.Proofs.Compression

namespace Winternitz

/-!
Exclusive or does not add up: what is folded out of the counts of several bytes is in
general not the number of bits set in them.  It has the same lowest bit, and no other
bit of it is ever looked at.
-/

/-! ### Bits set -/

/-- The number of bits set in all bytes together. -/
def Bytes.bitSum : Bytes → Nat
  | [] => 0
  | byte :: bytes => byte.toBitVec.cpop.toNat + bitSum bytes

namespace Bytes

@[simp] theorem bitSum_nil : bitSum [] = 0 := rfl

@[simp] theorem bitSum_cons (byte : UInt8) (bytes : Bytes) :
    bitSum (byte :: bytes) = byte.toBitVec.cpop.toNat + bitSum bytes := rfl

@[simp] theorem bitSum_append (first second : Bytes) :
    bitSum (first ++ second) = bitSum first + bitSum second := by
  induction first with
  | nil => simp
  | cons byte first ih => simp [ih, Nat.add_assoc]

end Bytes

/-- The count of one byte is its population count. -/
theorem setBits_eq_cpop (byte : UInt8) : setBits byte = byte.toBitVec.cpop.toNat := by
  have all : ∀ bits : BitVec 8, setBits ⟨bits⟩ = bits.cpop.toNat := by decide +kernel
  exact all byte.toBitVec

/-! ### Parity -/

/-- The fold keeps the lowest bit of the sum, from whatever count it starts. -/
theorem foldl_setBits_mod_two (value : Bytes) (start : Nat) :
    (value.foldl (fun count byte => count ^^^ setBits byte) start) % 2 =
      (start + value.bitSum) % 2 := by
  induction value generalizing start with
  | nil => simp
  | cons byte value ih =>
      have first : (start ^^^ setBits byte) % 2 = (start + byte.toBitVec.cpop.toNat) % 2 := by
        rw [Nat.xor_mod_two_eq, setBits_eq_cpop]
      simp only [List.foldl_cons, ih, Bytes.bitSum_cons]
      omega

theorem oddParity_eq (value : Bytes) : oddParity value = decide (value.bitSum % 2 = 1) := by
  simp [oddParity, foldl_setBits_mod_two]

/-- The parity of a whole is the difference of the parities of its parts. -/
theorem oddParity_append (first second : Bytes) :
    oddParity (first ++ second) = (oddParity first ^^ oddParity second) := by
  simp only [oddParity_eq, Bytes.bitSum_append]
  rcases Nat.mod_two_eq_zero_or_one first.bitSum with one | one <;>
    rcases Nat.mod_two_eq_zero_or_one second.bitSum with other | other <;>
    simp [Nat.add_mod, one, other]

/-! ### The public key -/

theorem filter_oddParity (ends : List Bytes) :
    ends.filter oddParity = ends.filter fun value => value.bitSum % 2 = 1 := by
  simp only [funext oddParity_eq]

/-- The public key of any number of ladder ends of one size: the digest of the public seed, of the
tweak and of all ends.  The tweak is the digest of those ends, in their order, that have an odd
number of bits set; it is that of nothing if there are none.  Parity counts bits, for byte strings
of every length, and so that of a whole follows from its parts. -/
theorem compress_ends {size : Nat} (positive : 0 < size) (publicSeed : Bytes) {ends : List Bytes}
    (sized : ∀ value ∈ ends, value.length = size) :
    compress publicSeed ends.flatten size = .ok (HashFamily.sha3_256.digest
      (publicSeed ++
        HashFamily.sha3_256.digest (ends.filter fun value => value.bitSum % 2 = 1).flatten ++
        ends.flatten)) ∧
    ((∀ value ∈ ends, value.bitSum % 2 = 0) →
      compress publicSeed ends.flatten size = .ok (HashFamily.sha3_256.digest
        (publicSeed ++ HashFamily.sha3_256.digest [] ++ ends.flatten))) ∧
    (∀ value : Bytes, oddParity value = decide (value.bitSum % 2 = 1)) ∧
    ∀ first second : Bytes, oddParity (first ++ second) = (oddParity first ^^ oddParity second) := by
  have compressed : compress publicSeed ends.flatten size = .ok (HashFamily.sha3_256.digest
      (publicSeed ++
        HashFamily.sha3_256.digest (ends.filter fun value => value.bitSum % 2 = 1).flatten ++
        ends.flatten)) := by
    rw [compress_eq positive publicSeed sized, publicKeyOf, compressionInput, tweak, filter_oddParity]
    rfl
  refine ⟨compressed, ?_, oddParity_eq, oddParity_append⟩
  intro even
  have none : (ends.filter fun value => value.bitSum % 2 = 1) = [] := by
    simpa [List.filter_eq_nil_iff] using even
  rw [compressed, none, List.flatten_nil]

/-- Of two ends the one with a single bit set makes the tweak. -/
theorem compress_ends_mixed :
    0 < 1 ∧ (∀ value ∈ ([[1], [3]] : List Bytes), value.length = 1) ∧
    compress (List.replicate 32 0) [1, 3] 1 = .ok (HashFamily.sha3_256.digest
      (List.replicate 32 0 ++ HashFamily.sha3_256.digest [1] ++ [1, 3])) := by
  have sized : ∀ value ∈ ([[1], [3]] : List Bytes), value.length = 1 := by simp
  obtain ⟨compressed, -⟩ := compress_ends Nat.one_pos (List.replicate 32 0) sized
  have odd : (([[1], [3]] : List Bytes).filter fun value => value.bitSum % 2 = 1) = [[1]] := by decide
  rw [odd] at compressed
  exact ⟨Nat.one_pos, sized, compressed⟩

end Winternitz
