/-
Module: Winternitz.Proofs.Signing
Purpose: A signature shows the positions of its message's digits, and leads to the public key of
  the key that made it.
Main exports: KeyMaterial.walk_position, KeyMaterial.bodyValues_signatureOf,
  KeyMaterial.decode_signatureOf
-/
import Winternitz.Proofs.Decode
import Winternitz.Proofs.Material

namespace Winternitz

namespace KeyMaterial

variable (material : KeyMaterial)

/-! ### What a signature consists of -/

theorem length_revealed (message : Bytes) :
    (material.revealed message).length = material.params.ladders := by
  rw [revealed, List.length_zipWith, List.length_range, material.params.length_digits, Nat.min_self]

theorem getElem?_revealed {message : Bytes} {ladder : Nat} {digit : UInt8}
    (atDigit : (material.params.digits message)[ladder]? = some digit) :
    (material.revealed message)[ladder]? = some (material.position digit.toNat ladder) := by
  apply List.getElem?_zipWith_eq_some.2
  refine ⟨ladder, digit, ?_, atDigit, rfl⟩
  exact List.getElem?_range (Params.ladder_lt_of_digit atDigit)

theorem revealed_sized (message : Bytes) :
    ∀ value ∈ material.revealed message, value.length = material.params.elementSize := by
  intro value member
  rcases List.mem_iff_getElem?.1 member with ⟨ladder, found⟩
  rcases List.getElem?_zipWith_eq_some.1 found with ⟨number, digit, -, -, rfl⟩
  exact material.length_position digit.toNat number

/-- Without its tag a signature begins with the public seed. -/
theorem take_signatureOf (message : Bytes) :
    (material.signatureOf message).tail.take seedSize = material.publicSeed.bytes :=
  List.take_left' material.publicSeed.length_eq

theorem drop_signatureOf (message : Bytes) :
    (material.signatureOf message).tail.drop seedSize = (material.revealed message).flatten :=
  List.drop_left' material.publicSeed.length_eq

theorem length_signatureOf (message : Bytes) :
    (material.signatureOf message).tail.length = material.params.bodySize := by
  change (material.publicSeed.bytes ++ (material.revealed message).flatten).length = _
  rw [List.length_append, material.publicSeed.length_eq,
    Bytes.length_flatten_of_sized (material.revealed_sized message), material.length_revealed]
  rfl

/-- With the tag, a signature has the size that the parameters say. -/
theorem size_signatureOf (message : Bytes) :
    (material.signatureOf message).length = material.params.signatureSize := by
  rw [Params.signatureSize, ← material.length_signatureOf message, Nat.add_comm]
  rfl

/-- The values in a signature are the positions of its message's digits. -/
theorem bodyValues_signatureOf (message : Bytes) :
    material.params.bodyValues (material.signatureOf message).tail = material.revealed message := by
  rw [Params.bodyValues, drop_signatureOf,
    Bytes.chunks_flatten material.params.elementSize_pos (material.revealed_sized message)]

/-! ### Where a signature leads -/

/-- From a position of a ladder one walks on to the later positions of that ladder. -/
theorem walk_position (steps depth ladder : Nat) :
    material.params.walk material.publicSeed.bytes steps depth (material.position depth ladder) =
      material.position (depth + steps) ladder := by
  rw [position, position, Params.walk_add, Nat.zero_add]

theorem position_succ (depth ladder : Nat) :
    material.position (depth + 1) ladder =
      material.params.step material.publicSeed.bytes depth (material.position depth ladder) := by
  rw [position, Params.walk_succ, Nat.zero_add, position]

theorem claimedEnds_signatureOf (message : Bytes) :
    material.params.claimedEnds message (material.signatureOf message).tail = material.ends := by
  apply List.ext_getElem?
  intro ladder
  by_cases inside : ladder < material.params.ladders
  · obtain ⟨digit, atDigit⟩ := Params.exists_digit inside message
    have high : digit.toNat + (ladderSteps - digit.toNat) = ladderSteps :=
      Nat.add_sub_cancel' (toNat_le_ladderSteps digit)
    have atValue := material.getElem?_revealed atDigit
    rw [← bodyValues_signatureOf] at atValue
    rw [material.params.getElem?_claimedEnds atDigit atValue, take_signatureOf, walk_position, high,
      material.getElem?_ends inside]
  · -- Beyond the last ladder neither list has a value.
    have claimed : (material.params.claimedEnds message
        (material.signatureOf message).tail).length ≤ ladder := by
      rw [material.params.length_claimedEnds message (material.length_signatureOf message)]
      exact Nat.le_of_not_lt inside
    have own : material.ends.length ≤ ladder := by
      rw [material.length_ends]
      exact Nat.le_of_not_lt inside
    rw [List.getElem?_eq_none claimed, List.getElem?_eq_none own]

/-- A signature of a message leads back to the public key. -/
theorem decode_signatureOf (message : Bytes) :
    material.params.decode message (material.signatureOf message).tail =
      .ofValue material.publicKey := by
  rw [material.params.decode_whole message (material.length_signatureOf message),
    Params.claimedKey, claimedEnds_signatureOf, take_signatureOf]
  rfl

/-- Material for closed instances of statements about keys: both seeds are all zeros. -/
def zeros (level : Level) : KeyMaterial where
  params := level.params
  secretSeed := ⟨List.replicate seedSize 0, List.length_replicate⟩
  publicSeed := ⟨List.replicate seedSize 0, List.length_replicate⟩

end KeyMaterial

end Winternitz
