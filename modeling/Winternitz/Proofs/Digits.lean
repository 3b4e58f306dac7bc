/-
Module: Winternitz.Proofs.Digits
Purpose: The digits of a message: what is computed, how many they are, and how two messages differ.
Main exports: Params.computeDigits_eq, Params.length_digits, Params.digits_exceed
-/
import Winternitz.Digits
import Winternitz.Proofs.Hashing
import Winternitz.Proofs.Incomparability

namespace Winternitz.Params

open Hashing

theorem length_digest (params : Params) (message : Bytes) :
    (params.digest message).length = params.messageSize := by
  rw [digest, List.length_take, HashFamily.length_digest]
  exact Nat.min_eq_left params.messageSize_fits

/-- Every ladder has a digit, and every digit a ladder. -/
theorem length_digits (params : Params) (message : Bytes) :
    (params.digits message).length = params.ladders := by
  rw [digits, List.length_append, length_checksum, length_digest]
  rfl

theorem ladder_lt_of_digit {params : Params} {message : Bytes} {ladder : Nat} {digit : UInt8}
    (atDigit : (params.digits message)[ladder]? = some digit) : ladder < params.ladders := by
  rcases List.getElem?_eq_some_iff.1 atDigit with ⟨inside, -⟩
  rwa [length_digits] at inside

theorem exists_digit {params : Params} {ladder : Nat} (inside : ladder < params.ladders)
    (message : Bytes) : ∃ digit, (params.digits message)[ladder]? = some digit := by
  rw [← params.length_digits message] at inside
  exact ⟨_, List.getElem?_eq_getElem inside⟩

/-- The hasher computes the digits, and nothing goes wrong on the way. -/
theorem computeDigits_eq (params : Params) (message : Bytes) :
    params.computeDigits message = .ok (params.digits message) := by
  have hashed : Hashing.result params.messageHash (do
      Hashing.update message
      Hashing.finalize params.messageHash.size) = .ok (params.messageHash.digest message) := by
    apply Returns.result
    exact run_finalize_size ((Hasher.fresh params.messageHash).update message)
  rw [computeDigits, Fault.bind_of_ok _ hashed]
  rfl

/-- Of two messages with different digests each has a larger digit than the other somewhere. -/
theorem digits_exceed (params : Params) {left right : Bytes}
    (different : params.digest left ≠ params.digest right) :
    Bytes.Exceeds (params.digits left) (params.digits right) := by
  have aligned : (params.digest left).length = (params.digest right).length := by
    rw [length_digest, length_digest]
  have short : (params.digest left).length ≤ 257 := by
    rw [length_digest]
    exact Nat.le_trans params.messageSize_le (by decide)
  exact signed_exceeds aligned short different

end Winternitz.Params
