/-
Module: Winternitz.Proofs.Incomparability
Purpose: Of two digests with their checksums each is larger than the other somewhere.
Main exports: Bytes.Exceeds, Bytes.total_le_of_not_exceeds, checksum_exceeds, signed_exceeds
-/
import Winternitz.Proofs.Checksum

namespace Winternitz

/-!
A signature reveals of each ladder the value at the depth of its digit, and from
there everybody can walk up.  It would serve a second message whose digits are
nowhere smaller.  There is no such message: digits of the digest that are all at
least as large have a larger sum and hence a smaller checksum, and a smaller
number is smaller in one of its bytes.
-/

/-- At some position the first byte string holds a larger byte than the second. -/
def Bytes.Exceeds (left right : Bytes) : Prop :=
  ∃ (position : Nat) (high low : UInt8),
    left[position]? = some high ∧ right[position]? = some low ∧ low < high

namespace Bytes

theorem exceeds_of_head {high low : UInt8} (larger : low < high) (left right : Bytes) :
    Exceeds (high :: left) (low :: right) :=
  ⟨0, high, low, rfl, rfl, larger⟩

namespace Exceeds

variable {left right : Bytes}

theorem cons (exceeds : Exceeds left right) (first second : UInt8) :
    Exceeds (first :: left) (second :: right) := by
  rcases exceeds with ⟨position, high, low, atLeft, atRight, larger⟩
  exact ⟨position + 1, high, low, by simpa using atLeft, by simpa using atRight, larger⟩

/-- What follows does not matter. -/
theorem append (exceeds : Exceeds left right) (leftEnd rightEnd : Bytes) :
    Exceeds (left ++ leftEnd) (right ++ rightEnd) := by
  rcases exceeds with ⟨position, high, low, atLeft, atRight, larger⟩
  refine ⟨position, high, low, ?_, ?_, larger⟩
  · rcases List.getElem?_eq_some_iff.1 atLeft with ⟨inside, -⟩
    rw [List.getElem?_append_left inside, atLeft]
  · rcases List.getElem?_eq_some_iff.1 atRight with ⟨inside, -⟩
    rw [List.getElem?_append_left inside, atRight]

/-- What stands before does not matter if it is equally long. -/
theorem prepend (exceeds : Exceeds left right) {leftStart rightStart : Bytes}
    (aligned : leftStart.length = rightStart.length) :
    Exceeds (leftStart ++ left) (rightStart ++ right) := by
  rcases exceeds with ⟨position, high, low, atLeft, atRight, larger⟩
  refine ⟨leftStart.length + position, high, low, ?_, ?_, larger⟩
  · rw [List.getElem?_append_right (Nat.le_add_right ..), Nat.add_sub_cancel_left, atLeft]
  · rw [aligned, List.getElem?_append_right (Nat.le_add_right ..), Nat.add_sub_cancel_left, atRight]

end Exceeds

/-- Bytes that are nowhere larger have no larger sum, and the same sum only if they are the same. -/
theorem total_le_of_not_exceeds {left right : Bytes} (aligned : left.length = right.length)
    (below : ¬ Exceeds left right) :
    left.total ≤ right.total ∧ (left.total = right.total → left = right) := by
  induction left generalizing right with
  | nil =>
      have empty : right = [] := List.eq_nil_of_length_eq_zero aligned.symm
      subst empty
      exact ⟨Nat.le_refl _, fun _ => rfl⟩
  | cons first left ih =>
      cases right with
      | nil => simp at aligned
      | cons second right =>
          have head : first ≤ second :=
            UInt8.not_lt.1 fun larger => below (exceeds_of_head larger left right)
          have headNat : first.toNat ≤ second.toNat := UInt8.le_iff_toNat_le.1 head
          obtain ⟨tail, same⟩ := ih (by simpa using aligned)
            fun exceeds => below (exceeds.cons first second)
          rw [total_cons, total_cons]
          refine ⟨by omega, fun equal => ?_⟩
          have heads : first = second := UInt8.toNat_inj.1 (by omega)
          have tails : left = right := same (by omega)
          rw [heads, tails]

end Bytes

/-! ### Digests with their checksums -/

/-- With two bytes at most, a larger sum of distances shows in one byte of the checksum. -/
theorem checksum_exceeds {left right : Bytes} (aligned : left.length = right.length)
    (short : left.length ≤ 257) (larger : missing right < missing left) :
    Bytes.Exceeds (checksum left) (checksum right) := by
  have bound : missing left ≤ 255 * left.length := Nat.sub_le ..
  by_cases single : left.length = 1
  · rw [checksum_single single, checksum_single (aligned.symm.trans single)]
    apply Bytes.exceeds_of_head
    rw [UInt8.lt_iff_toNat_lt, Nat.toUInt8_eq, Nat.toUInt8_eq, UInt8.toNat_ofNat',
      UInt8.toNat_ofNat']
    omega
  · have leftFits : left.length ≤ longestSummed := Nat.le_trans short (by decide)
    have rightFits : right.length ≤ longestSummed := aligned ▸ leftFits
    rw [checksum_pair single leftFits, checksum_pair (aligned ▸ single) rightFits]
    -- The higher bytes decide unless they agree; then the lower ones do.
    by_cases high : missing right / 256 < missing left / 256
    · apply Bytes.exceeds_of_head
      rw [UInt8.lt_iff_toNat_lt, Nat.toUInt8_eq, Nat.toUInt8_eq, UInt8.toNat_ofNat',
        UInt8.toNat_ofNat']
      omega
    · apply Bytes.Exceeds.cons
      apply Bytes.exceeds_of_head
      rw [UInt8.lt_iff_toNat_lt, Nat.toUInt8_eq, Nat.toUInt8_eq, UInt8.toNat_ofNat',
        UInt8.toNat_ofNat']
      omega

/-- A digest with its checksum is larger somewhere than every other one with its own. -/
theorem signed_exceeds {left right : Bytes} (aligned : left.length = right.length)
    (short : left.length ≤ 257) (different : left ≠ right) :
    Bytes.Exceeds (left ++ checksum left) (right ++ checksum right) := by
  by_cases digest : Bytes.Exceeds left right
  · exact digest.append _ _
  · rcases Bytes.total_le_of_not_exceeds aligned digest with ⟨below, same⟩
    have strict : left.total < right.total :=
      Nat.lt_of_le_of_ne below fun equal => different (same equal)
    have bound : right.total ≤ 255 * right.length := right.total_le
    have larger : missing right < missing left := by
      rw [missing, missing, aligned]
      omega
    exact (checksum_exceeds aligned short larger).prepend aligned

end Winternitz
