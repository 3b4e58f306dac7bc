/-
Module: Winternitz.Proofs.Inspection
Purpose: What an inspected key tells, and that its secret seed is no part of it.
Main exports: Key.publicOutline, Key.LeftBy, Key.exists_leftBy, Key.untouched_of_not_keyCached,
  Key.texts_hide_secret
-/
import Winternitz.Proofs.Caches

namespace Winternitz.Key

/-!
A key holds its secret seed, and once its ladders are generated all values on them
as well, although a signature reveals of each ladder only those from its digit on.
The texts of a key end up in logs.  They are written from what everybody may know,
and of that calls change no more than whether the ladders and the public key are
there.
-/

/-! ### What may be told -/

/-- A key as an inspected value, written from what everybody may know of it. -/
def publicOutline (params : Params) (publicSeed : Bytes) (generated : Bool)
    (publicKey : Option PublicKey) : Outline :=
  .record "Key"
    [("params", params.outline), ("public_seed", outlineOfBytes publicSeed),
     ("generated", .flag generated), ("pk", .optional (publicKey.map outlineOfBytes))]
    true

/-- The seeds, the positions and the state of the caches show in nothing else. -/
theorem outline_eq_publicOutline (key : Key) :
    key.outline = publicOutline key.params key.publicSeed key.isGenerated key.publicKey := rfl

/-! ### What calls leave behind -/

/-- The key that is left of one made from these seeds when these calls have been made on it. -/
def LeftBy (params : Params) (secretSeed publicSeed : Seed) (calls : List Call) (used : Key) : Prop :=
  ∃ fresh, fromSeeds params secretSeed.bytes publicSeed.bytes = .ok fresh ∧
    fresh.after calls = .ok used

/-- Any calls leave a key with the same parameters and the same public seed. -/
theorem exists_leftBy (params : Params) (secretSeed publicSeed : Seed) (calls : List Call) :
    ∃ used, LeftBy params secretSeed publicSeed calls used ∧
      used.params = params ∧ used.publicSeed = publicSeed.bytes ∧
      (used.isGenerated = true ↔ .request .generate ∈ calls) ∧
      (used.publicKey.isSome = true ↔ KeyCached calls) := by
  obtain ⟨positions, publicKey, called, caches⟩ :=
    KeyMaterial.CachesAfter.exists_after ⟨params, secretSeed, publicSeed⟩ calls
  have made := fromSeeds_seeds params secretSeed publicSeed
  exact ⟨_, ⟨_, made, called⟩, rfl, rfl, caches.positions_filled, caches.publicKey_filled⟩

/-- Calls that fill no cache, such as signing, leave both empty. -/
theorem untouched_of_not_keyCached {calls : List Call} {used : Key}
    (generated : used.isGenerated = true ↔ .request .generate ∈ calls)
    (cached : used.publicKey.isSome = true ↔ KeyCached calls) (idle : ¬ KeyCached calls) :
    used.isGenerated = false ∧ used.publicKey = none := by
  constructor
  · rw [← Bool.not_eq_true, generated]
    exact fun member => idle (Or.inr member)
  · rw [← Option.not_isSome_iff_eq_none, cached]
    exact idle

/-! ### Two keys -/

/-- Two keys with the same parameters and public seed but any two secret seeds, after any calls on
either: each text is written from public parts alone, so the keys show the same texts as soon as
both or neither have generated their ladders and both have cached the same public key or none.  Until
one of the calls fills a cache the texts show the parameters and the public seed and nothing else. -/
theorem texts_hide_secret (params : Params) (publicSeed secretSeed secretSeed' : Seed)
    (calls calls' : List Call) :
    ∃ used used', LeftBy params secretSeed publicSeed calls used ∧
      LeftBy params secretSeed' publicSeed calls' used' ∧
      (used.isGenerated = used'.isGenerated → used.publicKey = used'.publicKey →
        used.debugText = used'.debugText ∧ used.prettyText = used'.prettyText) ∧
      used.debugText =
        (publicOutline params publicSeed.bytes used.isGenerated used.publicKey).oneLine ∧
      used.prettyText =
        (publicOutline params publicSeed.bytes used.isGenerated used.publicKey).spread ∧
      (¬ KeyCached calls →
        used.debugText = (publicOutline params publicSeed.bytes false none).oneLine ∧
        used.prettyText = (publicOutline params publicSeed.bytes false none).spread) := by
  obtain ⟨used, left, params_eq, seed_eq, generated, cached⟩ :=
    exists_leftBy params secretSeed publicSeed calls
  obtain ⟨used', left', params_eq', seed_eq', -, -⟩ :=
    exists_leftBy params secretSeed' publicSeed calls'
  have outline : used.outline =
      publicOutline params publicSeed.bytes used.isGenerated used.publicKey := by
    rw [outline_eq_publicOutline, params_eq, seed_eq]
  have outline' : used'.outline =
      publicOutline params publicSeed.bytes used'.isGenerated used'.publicKey := by
    rw [outline_eq_publicOutline, params_eq', seed_eq']
  refine ⟨used, used', left, left', ?_, congrArg Outline.oneLine outline,
    congrArg Outline.spread outline, ?_⟩
  · intro sameGenerated samePublicKey
    have same : used.outline = used'.outline := by
      rw [outline, outline', sameGenerated, samePublicKey]
    exact ⟨congrArg Outline.oneLine same, congrArg Outline.spread same⟩
  · intro idle
    obtain ⟨ungenerated, uncached⟩ := untouched_of_not_keyCached generated cached idle
    rw [ungenerated, uncached] at outline
    exact ⟨congrArg Outline.oneLine outline, congrArg Outline.spread outline⟩

end Winternitz.Key
