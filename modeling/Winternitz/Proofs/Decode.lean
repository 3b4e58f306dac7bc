/-
Module: Winternitz.Proofs.Decode
Purpose: What decoding gives for a body of the right length, and for every other one.
Main exports: Params.decode_whole, Params.decode_wrong, Params.decode_ok
-/
import Winternitz.Proofs.Compression
import Winternitz.Proofs.Traversal
import Winternitz.Signature.Claims
import Winternitz.Signature.Decode

namespace Winternitz.Params

variable (params : Params) {message body : Bytes}

/-! ### The values in a body -/

theorem length_drop_seed (whole : body.length = params.bodySize) :
    (body.drop seedSize).length = params.ladders * params.elementSize := by
  rw [List.length_drop, whole, bodySize]
  omega

/-- A body of the right length has one value for every ladder. -/
theorem length_bodyValues (whole : body.length = params.bodySize) :
    (params.bodyValues body).length = params.ladders :=
  Bytes.length_chunks_of_whole params.elementSize_pos (params.length_drop_seed whole)

theorem exists_bodyValue (whole : body.length = params.bodySize) {ladder : Nat}
    (inside : ladder < params.ladders) : ∃ value, (params.bodyValues body)[ladder]? = some value := by
  rw [← params.length_bodyValues whole] at inside
  exact ⟨_, List.getElem?_eq_getElem inside⟩

theorem bodyValues_sized :
    ∀ value ∈ params.bodyValues body, value.length = params.elementSize :=
  fun _ member => Bytes.length_of_mem_chunks member

theorem flatten_bodyValues (whole : body.length = params.bodySize) :
    (params.bodyValues body).flatten = body.drop seedSize :=
  Bytes.flatten_chunks (params.length_drop_seed whole)

/-! ### The claimed ends -/

theorem getElem?_claimedEnds {ladder : Nat} {digit : UInt8} {value : Bytes}
    (atDigit : (params.digits message)[ladder]? = some digit)
    (atValue : (params.bodyValues body)[ladder]? = some value) :
    (params.claimedEnds message body)[ladder]? =
      some (params.walk (body.take seedSize) (ladderSteps - digit.toNat) digit.toNat value) :=
  List.getElem?_zipWith_eq_some.2 ⟨digit, value, atDigit, atValue, rfl⟩

/-- A body of the right length claims an end for every ladder. -/
theorem length_claimedEnds (message : Bytes) (whole : body.length = params.bodySize) :
    (params.claimedEnds message body).length = params.ladders := by
  simp [claimedEnds, params.length_digits, params.length_bodyValues whole]

theorem claimedEnds_sized (message body : Bytes) :
    ∀ value ∈ params.claimedEnds message body, value.length = params.elementSize := by
  intro value member
  rcases List.mem_iff_getElem?.1 member with ⟨ladder, found⟩
  rcases List.getElem?_zipWith_eq_some.1 found with ⟨digit, start, -, atValue, rfl⟩
  apply params.length_walk
  exact params.bodyValues_sized start (List.mem_of_getElem? atValue)

theorem walks_decode (message body : Bytes) :
    params.walks (body.take seedSize) (params.bodyValues body)
      (params.plannedSpans (.decode message)) = params.claimedEnds message body := by
  rw [walks, plannedSpans, List.zipWith_map_right, claimedEnds, List.zipWith_comm]

/-! ### Decoding -/

/-- Any body of the right length leads to the public key that it claims. -/
theorem decode_whole (message : Bytes) (whole : body.length = params.bodySize) :
    params.decode message body = .ofValue (params.claimedKey message body) := by
  have seed : body.slice 0 seedSize = .ok (body.take seedSize) := by
    rw [Bytes.slice_of_le, List.drop_zero]
    rw [whole, bodySize]
    omega
  obtain ⟨after, walked, -⟩ := params.traverse_spec (body.take seedSize)
    (params.length_bodyValues whole) params.bodyValues_sized (.decode message)
  rw [params.flatten_bodyValues whole, params.walks_decode message body] at walked
  have compressed := compress_eq params.elementSize_pos (body.take seedSize)
    (params.claimedEnds_sized message body)
  rw [decode, if_neg (not_not_intro whole)]
  change (Report.ofFault (body.slice 0 seedSize) >>= _) = _
  rw [Report.ofFault_bind seed]
  rw [Report.ofFault_bind walked]
  change Report.ofFault (compress _ _ _) = _
  rw [compressed]
  rfl

/-- A body of any other length is refused, and that is reported. -/
theorem decode_wrong (message : Bytes) (wrong : body.length ≠ params.bodySize) :
    params.decode message body =
      ⟨.error (.rejected (.invalidSignatureLength params.bodySize body.length)),
        [.invalidSignatureLength params.bodySize body.length]⟩ := by
  rw [decode, if_pos wrong]
  rfl

/-- Whatever is decoded is the public key that a body of the right length claims. -/
theorem decode_ok {publicKey : PublicKey}
    (decoded : (params.decode message body).outcome = .ok publicKey) :
    body.length = params.bodySize ∧ params.claimedKey message body = publicKey := by
  by_cases whole : body.length = params.bodySize
  · rw [params.decode_whole message whole] at decoded
    exact ⟨whole, Except.ok.inj decoded⟩
  · rw [params.decode_wrong message whole] at decoded
    cases decoded

end Winternitz.Params
