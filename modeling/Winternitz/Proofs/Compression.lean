/-
Module: Winternitz.Proofs.Compression
Purpose: The public key computed with one hasher is the digest of the written-down input.
Main exports: run_forM_update, compress_eq, compressionInput_inj
-/
import Winternitz.Ladder.Compression
import Winternitz.Proofs.Hashing
import Winternitz.Proofs.Pieces

namespace Winternitz

open Hashing

theorem fresh_update_nil (family : HashFamily) :
    (Hasher.fresh family).update [] = Hasher.fresh family := by
  have short : ([] : Bytes).length ≤ family.algorithm.blockSize := Nat.zero_le _
  change Hasher.mk (Absorber.drain family.algorithm.start ([] ++ [])) = _
  rw [List.append_nil, Absorber.drain_short _ short]
  rfl

/-- Values taken in one by one are taken in as one byte string. -/
theorem run_forM_update {family : HashFamily} (values : List Bytes) (data : Bytes) :
    (values.forM Hashing.update).run ((Hasher.fresh family).update data) =
      .ok ((), (Hasher.fresh family).update (data ++ values.flatten)) := by
  induction values generalizing data with
  | nil =>
      rw [List.flatten_nil, List.append_nil]
      rfl
  | cons value values ih =>
      have first : (Hashing.update value).run ((Hasher.fresh family).update data) =
          .ok ((), (Hasher.fresh family).update (data ++ value)) := by
        rw [Hasher.update_append]
        rfl
      change (Hashing.update value >>= fun _ => values.forM Hashing.update).run _ = _
      rw [run_bind_of_ok first, ih, List.flatten_cons, List.append_assoc]

/-- The tweak is made of the ends with an odd number of bits set, and hashed with the seed and all
ends. -/
theorem compress_eq {size : Nat} (positive : 0 < size) (publicSeed : Bytes) {ends : List Bytes}
    (sized : ∀ value ∈ ends, value.length = size) :
    compress publicSeed ends.flatten size = .ok (publicKeyOf publicSeed ends) := by
  have cut : Bytes.split size ends.flatten = .ok ends := by
    rw [Bytes.split_of_pos positive, Bytes.chunks_flatten positive sized]
  have chosen : ((ends.filter oddParity).forM Hashing.update).run (Hasher.fresh publicKeyHash) =
      .ok ((), (Hasher.fresh publicKeyHash).update (ends.filter oddParity).flatten) := by
    have run := @run_forM_update publicKeyHash (ends.filter oddParity) []
    rwa [fresh_update_nil, List.nil_append] at run
  have tweaked : (finalize publicKeySize).run
      ((Hasher.fresh publicKeyHash).update (ends.filter oddParity).flatten) =
        .ok (tweak ends, Hasher.fresh publicKeyHash) :=
    run_finalize_size _
  have input : (((Hasher.fresh publicKeyHash).update publicSeed).update (tweak ends)).update
      ends.flatten = (Hasher.fresh publicKeyHash).update (compressionInput publicSeed ends) := by
    rw [compressionInput, Hasher.update_append, Hasher.update_append]
  have hashed : (finalize publicKeySize).run
      ((((Hasher.fresh publicKeyHash).update publicSeed).update (tweak ends)).update ends.flatten) =
        .ok (publicKeyOf publicSeed ends, Hasher.fresh publicKeyHash) := by
    rw [input]
    exact run_finalize_size _
  rw [compress, Fault.bind_of_ok _ cut]
  apply Returns.result
  rw [Returns, run_bind_of_ok chosen, run_bind_of_ok tweaked]
  exact hashed

theorem length_compressionInput (publicSeed : Bytes) (ends : List Bytes) :
    (compressionInput publicSeed ends).length =
      publicSeed.length + publicKeySize + ends.flatten.length := by
  have tweaked : (tweak ends).length = publicKeySize := HashFamily.length_digest ..
  simp only [compressionInput, List.length_append, tweaked]

/-- The parts of a compression input have fixed places, so none of them can stand in for another. -/
theorem compressionInput_inj {size : Nat} (positive : 0 < size) {leftSeed rightSeed : Bytes}
    (seeds : leftSeed.length = rightSeed.length) {left right : List Bytes}
    (leftSized : ∀ value ∈ left, value.length = size)
    (rightSized : ∀ value ∈ right, value.length = size)
    (same : compressionInput leftSeed left = compressionInput rightSeed right) :
    leftSeed = rightSeed ∧ left = right := by
  have tweaks : (tweak left).length = (tweak right).length := by
    rw [tweak, tweak, HashFamily.length_digest, HashFamily.length_digest]
  rw [compressionInput, compressionInput, List.append_assoc, List.append_assoc] at same
  rcases List.append_inj same seeds with ⟨seed, rest⟩
  rcases List.append_inj rest tweaks with ⟨-, ends⟩
  exact ⟨seed, Bytes.flatten_inj positive leftSized rightSized ends⟩

end Winternitz
