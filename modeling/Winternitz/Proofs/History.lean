/-
Module: Winternitz.Proofs.History
Purpose: The states that a key can be in, and what it answers in each of them.
Main exports: Key.Reached, Key.fromSeeds_seeds, Key.generate_empty, Reached.sign,
  Reached.computePublicKey
-/
import Winternitz.Key.History
import Winternitz.Proofs.Material

namespace Winternitz

/-!
A key has three states: both caches are empty, or the public key alone is kept,
or everything is.  What is kept is always what the seeds determine, so what the
key answers does not depend on the state.
-/

/-- The states that a key with these seeds can be in. -/
inductive Key.Reached (material : KeyMaterial) : Key → Prop where
  | fresh : Reached material (Key.ofMaterial material)
  | derived : Reached material ⟨material, none, some material.publicKey⟩
  | recorded {table : material.params.Positions} (complete : material.Recorded table) :
      Reached material ⟨material, some table, some material.publicKey⟩

/-- Two seeds of the right size make a fresh key. -/
theorem Key.fromSeeds_seeds (params : Params) (secretSeed publicSeed : Seed) :
    Key.fromSeeds params secretSeed.bytes publicSeed.bytes =
      .ok (Key.ofMaterial ⟨params, secretSeed, publicSeed⟩) := by
  have accepted (role : SeedRole) (seed : Seed) :
      Key.seedOfBytes role seed.bytes = .ok seed := by
    rw [Key.seedOfBytes, dif_pos seed.length_eq]
  rw [Key.fromSeeds, accepted, accepted]
  rfl

/-- Generating without positions records them, and keeps a public key that is there already. -/
theorem Key.generate_empty {material : KeyMaterial} {table : material.params.Positions}
    {publicKey : PublicKey}
    (recording : material.record = .ok (table, publicKey)) (cached : Option PublicKey) :
    (Key.mk material none cached).generate =
      ⟨.ok ⟨material, some table, some (cached.getD publicKey)⟩,
        [.generatingLadders material.params]⟩ := by
  have emitted : Report.emit (.generatingLadders material.params) =
      ⟨.ok (), [.generatingLadders material.params]⟩ := rfl
  change (Report.emit (.generatingLadders material.params) >>= fun _ => _) = _
  rw [Report.bind_of_ok emitted]
  change Report.mk (Report.ofFault material.record >>= _).outcome
    (_ ++ (Report.ofFault material.record >>= _).events) = _
  rw [Report.ofFault_bind recording]
  rfl

namespace Key.Reached

variable {material : KeyMaterial} {key : Key}

/-- A message has the same signature in every state. -/
theorem sign (reached : Reached material key) (message : Bytes) :
    key.sign message = .ok (material.signatureOf message) := by
  cases reached with
  | fresh => exact material.signByWalking_eq message
  | derived => exact material.signByWalking_eq message
  | recorded complete => exact KeyMaterial.signByTable_eq complete message

/-- The public key is the same in every state, and kept afterwards. -/
theorem computePublicKey (reached : Reached material key) :
    ∃ after events, key.computePublicKey = ⟨.ok (material.publicKey, after), events⟩ ∧
      Reached material after ∧ after.publicKey = some material.publicKey ∧
      after.isGenerated = key.isGenerated := by
  cases reached with
  | fresh =>
      refine ⟨⟨material, none, some material.publicKey⟩, [], ?_, derived, rfl, rfl⟩
      change (Report.ofFault material.derivePublicKey >>= _) = _
      rw [Report.ofFault_bind material.derivePublicKey_eq]
      rfl
  | derived => exact ⟨_, [.publicKeyCached], rfl, derived, rfl, rfl⟩
  | recorded complete => exact ⟨_, [.publicKeyCached], rfl, recorded complete, rfl, rfl⟩

end Key.Reached

end Winternitz
