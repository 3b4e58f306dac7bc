/-
Module: Winternitz.Proofs.Derivation
Purpose: Values derived from a seed are digests of the inputs written down for them.
Main exports: run_prf, run_chain, returns_maskingElement, masksLength_of_le,
  returns_maskingElements
-/
import Winternitz.Ladder.Walk
import Winternitz.Proofs.Hashing

namespace Winternitz

open Hashing

/-!
`prf` and `chain` empty the hasher before they use it.  Their results are
therefore the same from every hasher, and depend on the seed, the number and the
value alone.
-/

variable {family : HashFamily}

/-! ### One value -/

/-- Whatever was hashed before, only the seed and the number count. -/
theorem run_prf (hasher : Hasher family) (seed : Bytes) (index : UInt8) (length : Nat) :
    (prf seed index length).run hasher =
      ((Hasher.fresh family).update (prfInput seed index)).finalize length := by
  rw [prfInput, Hasher.update_append]
  rfl

/-- Whatever was hashed before, only the public seed, the depth and the masked value count. -/
theorem run_chain (hasher : Hasher family) (publicSeed : Bytes) (depth : UInt8) (masked : Bytes)
    (length : Nat) :
    (chain publicSeed depth masked length).run hasher =
      ((Hasher.fresh family).update (chainInput publicSeed depth masked)).finalize length := by
  rw [chainInput, Hasher.update_append, Hasher.update_append]
  rfl

theorem returns_prf (seed : Bytes) (index : UInt8) :
    Returns (prf seed index family.size : Hashing family Bytes)
      (family.digest (prfInput seed index)) := by
  rw [Returns, run_prf]
  exact run_finalize_size _

theorem returns_chain (publicSeed : Bytes) (depth : UInt8) (masked : Bytes) :
    Returns (chain publicSeed depth masked family.size : Hashing family Bytes)
      (family.digest (chainInput publicSeed depth masked)) := by
  rw [Returns, run_chain]
  exact run_finalize_size _

/-! ### Values cut to a size -/

/-- A digest may be cut to every size that its family allows. -/
theorem slice_digest {size : Nat} (fits : size ≤ family.size) (data : Bytes) :
    (family.digest data).slice 0 size = .ok ((family.digest data).take size) := by
  have inside : 0 + size ≤ (family.digest data).length := by
    rw [HashFamily.length_digest]
    omega
  rw [Bytes.slice_of_le inside, List.drop_zero]

theorem length_take_digest {size : Nat} (fits : size ≤ family.size) (data : Bytes) :
    ((family.digest data).take size).length = size := by
  rw [List.length_take, HashFamily.length_digest, Nat.min_eq_left fits]

theorem returns_maskingElement {size index : Nat} (fits : size ≤ family.size)
    (inRange : index < ladderSteps) (publicSeed : Bytes) :
    Returns (maskingElement size publicSeed index : Hashing family Bytes)
      ((family.digest (prfInput publicSeed (index + 1).toUInt8)).take size) := by
  have small : index + 1 < 256 := by
    unfold ladderSteps at inRange
    omega
  rw [maskingElement]
  apply (Returns.lift (byteOf_of_lt small)).andThen
  apply (returns_prf publicSeed _).andThen
  exact Returns.lift (slice_digest fits _)

/-- Elements that a hash can give take up the whole of their buffer. -/
theorem masksLength_of_le {size : Nat} (fits : size ≤ family.size) :
    masksLength size = ladderSteps * size := by
  apply masksLength_of_lt
  have bound := family.size_le
  unfold ladderSteps UInt64.size
  omega

/-- The masking elements in order, one for each step of a ladder. -/
theorem returns_maskingElements {size : Nat} (positive : 0 < size) (fits : size ≤ family.size)
    (publicSeed : Bytes) :
    Returns (maskingElements size publicSeed : Hashing family (List Bytes))
      ((List.range ladderSteps).map fun index =>
        (family.digest (prfInput publicSeed (index + 1).toUInt8)).take size) := by
  have nonzero : size ≠ 0 := Nat.ne_of_gt positive
  have small : ladderSteps * size ≤ largestBuffer := by
    have bound := family.size_le
    unfold ladderSteps largestBuffer
    omega
  have pieces : ladderSteps * size / size = ladderSteps := Nat.mul_div_cancel _ positive
  have covered : uncovered size (ladderSteps * size) = [] := if_pos (Nat.mul_mod_left ..)
  have each := Returns.mapM fun index member =>
    returns_maskingElement fits (List.mem_range.1 member) publicSeed
  simp only [maskingElements, if_neg nonzero, masksLength_of_le fits]
  apply (Returns.lift (allocated_of_le small)).andThen
  rw [pieces, covered]
  simp only [List.append_nil]
  exact each.andThen (.pure _)

end Winternitz
