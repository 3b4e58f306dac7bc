/-
Module: Winternitz.Proofs.Wire
Purpose: The signatures of a key, and what the entry points that read their tag make of them.
Main exports: Dispatched, KeyMaterial.dispatched, Key.dispatch_sign_after
-/
import Winternitz.Proofs.Caches
import Winternitz.Proofs.Dispatch
import Winternitz.Proofs.Signing

namespace Winternitz

/-!
Signing writes the tag that a search by parameters finds, and the entry points
select the parameters by that tag.  For a named set both are the same level; for
any other one the tag is no level's.
-/

/-- What the entry points answer for a message and a signature of it that was made with some
parameters and belongs to a public key. -/
structure Dispatched (params : Params) (message signature : Bytes) (publicKey : PublicKey) : Prop where
  /-- At every level the signature leads to the public key. -/
  named : ∀ level : Level, level.params.fields = params.fields →
    (decodeSignature message signature).outcome = .ok publicKey
  unnamed : (∀ level : Level, level.params.fields ≠ params.fields) →
    (decodeSignature message signature).outcome = .error (.rejected (.unknownEncoding 5))
  unnamed_transaction : message ≠ [] → (∀ level : Level, level.params.fields ≠ params.fields) →
    (decodeTransaction message signature).outcome = .error (.rejected (.unknownEncoding 5))
  /-- Transactions are verified against no other byte string than the public key. -/
  verified : message ≠ [] → ∀ level : Level, level ≠ .consensus →
    level.params.fields = params.fields → ∀ expected : Bytes,
      (verifyTransaction expected message signature).outcome = .ok (decide (expected = publicKey))
  consensus : message ≠ [] → Level.consensus.params.fields = params.fields →
    (decodeTransaction message signature).outcome = .error (.rejected .consensusNotAllowed) ∧
    ∀ expected : Bytes, (verifyTransaction expected message signature).outcome =
      .error (.rejected .consensusNotAllowed)
  /-- An empty message is no transaction, whatever its signature. -/
  empty : message = [] →
    (decodeTransaction message signature).outcome = .error (.rejected .emptyInput) ∧
    ∀ expected : Bytes, (verifyTransaction expected message signature).outcome =
      .error (.rejected .emptyInput)

namespace KeyMaterial

variable (material : KeyMaterial) (message : Bytes)

/-! ### The tag of a signature -/

theorem signatureOf_named {level : Level} (named : level.params = material.params) :
    material.signatureOf message = level.tag :: (material.signatureOf message).tail := by
  rw [← Level.tagOf_params, named]
  rfl

theorem signatureOf_unnamed (unnamed : ∀ level : Level, level.params ≠ material.params) :
    material.signatureOf message = Level.unnamedTag :: (material.signatureOf message).tail := by
  rw [← Level.tagOf_unnamed unnamed]
  rfl

/-! ### Its way through the entry points -/

theorem decodeSignature_named {level : Level} (named : level.params = material.params) :
    decodeSignature message (material.signatureOf message) = .ofValue material.publicKey := by
  rw [material.signatureOf_named message named, decodeSignature_tagged, named]
  exact material.decode_signatureOf message

theorem decodeSignature_unnamed (unnamed : ∀ level : Level, level.params ≠ material.params) :
    decodeSignature message (material.signatureOf message) =
      ⟨.error (.rejected (.unknownEncoding 5)), [.unknownEncoding 5]⟩ := by
  rw [material.signatureOf_unnamed message unnamed]
  exact decodeSignature_unknown (by decide) _ _

variable {message} in
theorem decodeTransaction_named (present : message ≠ []) {level : Level}
    (wallet : level ≠ .consensus) (named : level.params = material.params) :
    decodeTransaction message (material.signatureOf message) = .ofValue material.publicKey := by
  have allowed : level.tag ≠ Level.consensus.tag := by
    intro same
    exact wallet (Level.tag_inj same)
  rw [← material.decodeSignature_named message named, material.signatureOf_named message named]
  exact decodeTransaction_other present allowed _

variable {message} in
theorem decodeTransaction_unnamed (present : message ≠ [])
    (unnamed : ∀ level : Level, level.params ≠ material.params) :
    decodeTransaction message (material.signatureOf message) =
      ⟨.error (.rejected (.unknownEncoding 5)), [.unknownEncoding 5]⟩ := by
  have allowed : Level.unnamedTag ≠ Level.consensus.tag := by decide
  rw [← material.decodeSignature_unnamed message unnamed,
    material.signatureOf_unnamed message unnamed]
  exact decodeTransaction_other present allowed _

/-- The entry points treat a signature as its parameters say. -/
theorem dispatched :
    Dispatched material.params message (material.signatureOf message) material.publicKey := by
  constructor
  · intro level named
    rw [material.decodeSignature_named message (Params.fields_inj.1 named)]
    rfl
  · intro unnamed
    have unnamed : ∀ level : Level, level.params ≠ material.params := by
      simpa [Params.fields_inj] using unnamed
    rw [material.decodeSignature_unnamed message unnamed]
  · intro present unnamed
    have unnamed : ∀ level : Level, level.params ≠ material.params := by
      simpa [Params.fields_inj] using unnamed
    rw [material.decodeTransaction_unnamed present unnamed]
  · intro present level wallet named expected
    have decoded := material.decodeTransaction_named present wallet (Params.fields_inj.1 named)
    rw [verifyTransaction_of_ok decoded, Except.ok.injEq, Bool.eq_iff_iff, beq_iff_eq,
      decide_eq_true_eq]
    exact eq_comm
  · intro present named
    have refused := decodeTransaction_consensus present (material.signatureOf message).tail
    rw [← material.signatureOf_named message (Params.fields_inj.1 named)] at refused
    refine ⟨by rw [refused], ?_⟩
    intro expected
    rw [verifyTransaction_of_error refused]
  · intro missing
    have missing : message = [] ∨ material.signatureOf message = [] := Or.inl missing
    have refused := decodeTransaction_empty missing
    refine ⟨by rw [refused], ?_⟩
    intro expected
    rw [verifyTransaction_of_error refused]

end KeyMaterial

/-- Any parameter set, which is the same if it is made anew from its fields, any seeds and any calls
on their key: the key's signature of a message has the size that the parameters say, shows the
public seed after the tag, and the entry points lead from it to the public key that the key gives,
or refuse it, as the parameters' level says. -/
theorem Key.dispatch_sign_after (params : Params) (secretSeed publicSeed : Seed)
    (calls : List Call) (message : Bytes) :
    Params.new params.elementSize params.messageSize params.prfHash params.messageHash =
      .ok params ∧
    ∃ fresh used signature publicKey kept,
      Key.fromSeeds params secretSeed.bytes publicSeed.bytes = .ok fresh ∧
      fresh.after calls = .ok used ∧
      used.sign message = .ok signature ∧
      used.computePublicKey.outcome = .ok (publicKey, kept) ∧
      signature.length = params.signatureSize ∧
      (signature.drop 1).take 32 = publicSeed.bytes ∧
      Dispatched params message signature publicKey := by
  let material : KeyMaterial := ⟨params, secretSeed, publicSeed⟩
  obtain ⟨used, after, reached, -⟩ := Key.Reached.exists_after material calls
  obtain ⟨kept, events, computed, -⟩ := reached.computePublicKey
  refine ⟨params.new_fields, Key.ofMaterial material, used, material.signatureOf message,
    material.publicKey, kept, Key.fromSeeds_seeds params secretSeed publicSeed, after,
    reached.sign message, by rw [computed], ?_, ?_, material.dispatched message⟩
  · rw [Params.signatureSize, ← material.length_signatureOf message, Nat.add_comm]
    rfl
  · rw [List.drop_one]
    exact material.take_signatureOf message

end Winternitz
