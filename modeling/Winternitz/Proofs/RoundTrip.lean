/-
Module: Winternitz.Proofs.RoundTrip
Purpose: Whatever a key was used for before, its signatures are the same, and decode to its
  public key.
Main exports: Key.decode_sign_after, Key.sign_after_generate
-/
import Winternitz.Proofs.Caches
import Winternitz.Proofs.Signing

namespace Winternitz

/-!
Four computations must meet in one place: key generation walks whole ladders,
signing stops at the digits or looks up what generation has recorded, and
decoding goes on from the digits.  The calls before decide which of them are
run, and nothing else.
-/

/-- A key made from any two seeds and used in any way signs every message, and the signature
without its tag decodes to the public key that the key then gives. -/
theorem Key.decode_sign_after (params : Params) (secretSeed publicSeed : Seed) (calls : List Call)
    (message : Bytes) :
    ∃ fresh used signature publicKey kept,
      Key.fromSeeds params secretSeed.bytes publicSeed.bytes = .ok fresh ∧
      fresh.after calls = .ok used ∧
      used.sign message = .ok signature ∧
      used.computePublicKey.outcome = .ok (publicKey, kept) ∧
      params.decode message signature.tail = .ofValue publicKey := by
  let material : KeyMaterial := ⟨params, secretSeed, publicSeed⟩
  obtain ⟨used, after, reached, -⟩ := Key.Reached.exists_after material calls
  rcases reached.computePublicKey with ⟨kept, events, computed, -⟩
  refine ⟨Key.ofMaterial material, used, material.signatureOf message, material.publicKey, kept,
    ?_, after, ?_, ?_, ?_⟩
  · exact Key.fromSeeds_seeds params secretSeed publicSeed
  · exact reached.sign message
  · rw [computed]
  · exact material.decode_signatureOf message

/-- Two keys with the same seeds give the same signature if one of them looks the values up in its
recorded ladders and the other one, which never recorded them, walks. -/
theorem Key.sign_after_generate (params : Params) (secretSeed publicSeed : Seed)
    {recording walking : List Call} (generates : .request .generate ∈ recording)
    (never : .request .generate ∉ walking) (message : Bytes) :
    ∃ fresh recorded walked signature,
      Key.fromSeeds params secretSeed.bytes publicSeed.bytes = .ok fresh ∧
      fresh.after recording = .ok recorded ∧ recorded.isGenerated = true ∧
      fresh.after walking = .ok walked ∧ walked.isGenerated = false ∧
      recorded.sign message = .ok signature ∧ walked.sign message = .ok signature := by
  let material : KeyMaterial := ⟨params, secretSeed, publicSeed⟩
  obtain ⟨recorded, afterRecording, recordedReached, filled⟩ :=
    Key.Reached.exists_after material recording
  obtain ⟨walked, afterWalking, walkedReached, empty⟩ := Key.Reached.exists_after material walking
  refine ⟨Key.ofMaterial material, recorded, walked, material.signatureOf message, ?_,
    afterRecording, ?_, afterWalking, ?_, ?_, ?_⟩
  · exact Key.fromSeeds_seeds params secretSeed publicSeed
  · exact filled.2 generates
  · rw [← Bool.not_eq_true, empty]
    exact never
  · exact recordedReached.sign message
  · exact walkedReached.sign message

/-- A key that signed and generated, and one that signed and derived its public key. -/
theorem Key.sign_after_generate_zero_seeds :
    ∃ fresh recorded walked signature,
      Key.fromSeeds Level.level0.params (List.replicate 32 0) (List.replicate 32 0) = .ok fresh ∧
      fresh.after [.request (.sign []), .request .generate] = .ok recorded ∧
      recorded.isGenerated = true ∧
      fresh.after [.request (.sign []), .request .computePublicKey] = .ok walked ∧
      walked.isGenerated = false ∧
      recorded.sign [7] = .ok signature ∧ walked.sign [7] = .ok signature :=
  Key.sign_after_generate Level.level0.params ⟨List.replicate 32 0, rfl⟩ ⟨List.replicate 32 0, rfl⟩
    (by decide) (by decide) [7]

end Winternitz
