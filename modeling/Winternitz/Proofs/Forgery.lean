/-
Module: Winternitz.Proofs.Forgery
Purpose: What a signature gives away, and what a second message with the same public key costs.
Main exports: KeyMaterial.Shows, checksum_defence, Params.LowerOn, KeyMaterial.same_end_cases,
  KeyMaterial.Forgery, forgery_of_decode
-/
import Winternitz.Proofs.Caches
import Winternitz.Proofs.Signing

namespace Winternitz

/-! ### What a signature gives away -/

/-- A signature has the value of a ladder at a depth in that ladder's place. -/
def KeyMaterial.Shows (material : KeyMaterial) (signature : Bytes) (depth ladder : Nat) : Prop :=
  (material.params.bodyValues signature.tail)[ladder]? = some (material.position depth ladder)

theorem KeyMaterial.shows_signatureOf (material : KeyMaterial) {message : Bytes} {ladder : Nat}
    {digit : UInt8} (atDigit : (material.params.digits message)[ladder]? = some digit) :
    material.Shows (material.signatureOf message) digit.toNat ladder := by
  rw [Shows, bodyValues_signatureOf]
  exact material.getElem?_revealed atDigit

/-- Digests with their checksums are never below each other in all bytes.  The digits of two
messages with different digests are therefore not below each other either, and a signature of
one message shows some ladder only above the depth that the other message needs. -/
theorem checksum_defence :
    (∀ left right : Bytes, left.length = right.length → left.length ≤ 257 → left ≠ right →
      Bytes.Exceeds (left ++ checksum left) (right ++ checksum right)) ∧
    (∀ (params : Params) (first second : Bytes), params.digest first ≠ params.digest second →
      ∃ one two, params.computeDigits first = .ok one ∧ params.computeDigits second = .ok two ∧
        one.length = two.length ∧ Bytes.Exceeds one two ∧ Bytes.Exceeds two one) ∧
    (∀ (material : KeyMaterial) (calls : List Call) (signed other : Bytes),
      material.params.digest signed ≠ material.params.digest other →
      ∃ used signature ladder shown needed,
        (Key.ofMaterial material).after calls = .ok used ∧ used.sign signed = .ok signature ∧
        (material.params.digits signed)[ladder]? = some shown ∧
        (material.params.digits other)[ladder]? = some needed ∧ needed < shown ∧
        material.Shows signature shown.toNat ladder) := by
  refine ⟨?_, ?_, ?_⟩
  · intro left right aligned short different
    exact signed_exceeds aligned short different
  · intro params first second different
    refine ⟨params.digits first, params.digits second, params.computeDigits_eq first,
      params.computeDigits_eq second, ?_, ?_, ?_⟩
    · rw [params.length_digits, params.length_digits]
    · exact params.digits_exceed different
    · exact params.digits_exceed different.symm
  · intro material calls signed other different
    obtain ⟨used, after, reached, -⟩ := Key.Reached.exists_after material calls
    obtain ⟨ladder, shown, needed, atShown, atNeeded, above⟩ :=
      material.params.digits_exceed different
    exact ⟨used, material.signatureOf signed, ladder, shown, needed, after, reached.sign signed,
      atShown, atNeeded, above, material.shows_signatureOf atShown⟩

/-- Two digests with the same sum, and the empty message next to one of a single byte. -/
theorem checksum_defence_level0 :
    Bytes.Exceeds ([0, 255] ++ checksum [0, 255]) ([255, 0] ++ checksum [255, 0]) ∧
    Level.level0.params.digest [] ≠ Level.level0.params.digest [1] ∧
    (∃ one two, Level.level0.params.computeDigits [] = .ok one ∧
      Level.level0.params.computeDigits [1] = .ok two ∧ one.length = two.length ∧
      Bytes.Exceeds one two ∧ Bytes.Exceeds two one) ∧
    (∃ used signature ladder shown needed,
      (Key.ofMaterial (KeyMaterial.zeros .level0)).after [.request .generate] = .ok used ∧
      used.sign [] = .ok signature ∧
      (Level.level0.params.digits [])[ladder]? = some shown ∧
      (Level.level0.params.digits [1])[ladder]? = some needed ∧ needed < shown ∧
      (KeyMaterial.zeros .level0).Shows signature shown.toNat ladder) := by
  have different : Level.level0.params.digest [] ≠ Level.level0.params.digest [1] := by
    rw [Params.digest, Params.digest, HashFamily.digest_short _ (by decide),
      HashFamily.digest_short _ (by decide)]
    decide +kernel
  obtain ⟨digests, messages, signatures⟩ := checksum_defence
  refine ⟨?_, different, ?_, ?_⟩
  · exact digests [0, 255] [255, 0] rfl (by decide) (by decide)
  · exact messages Level.level0.params [] [1] different
  · exact signatures (KeyMaterial.zeros .level0) [.request .generate] [] [1] different

/-! ### What a second message costs -/

/-- Two different inputs of the public key's hash with the same digest. -/
def CompressionCollision (leftSeed : Bytes) (left : List Bytes) (rightSeed : Bytes)
    (right : List Bytes) : Prop :=
  compressionInput leftSeed left ≠ compressionInput rightSeed right ∧
    publicKeyHash.digest (compressionInput leftSeed left) =
      publicKeyHash.digest (compressionInput rightSeed right)

/-- On this ladder the second message needs a lower position than the first one, and this is the
value that the body has there. -/
structure Params.LowerOn (params : Params) (signed forged body : Bytes) (ladder : Nat)
    (high low : UInt8) (value : Bytes) : Prop where
  atSigned : (params.digits signed)[ladder]? = some high
  atForged : (params.digits forged)[ladder]? = some low
  atBody : (params.bodyValues body)[ladder]? = some value
  lower : low < high

namespace KeyMaterial

variable (material : KeyMaterial)

/-- At a depth the key's ladder and the walk from a value are apart, and one step further they
are together: the hash of that step collides. -/
structure JoinedAt (ladder depth low : Nat) (value : Bytes) : Prop where
  merge : material.params.Merge material.publicSeed.bytes depth (material.position depth ladder)
    (material.params.walk material.publicSeed.bytes (depth - low) low value)
  together : material.position (depth + 1) ladder =
    material.params.walk material.publicSeed.bytes (depth + 1 - low) low value
  collision : material.params.ChainCollision material.publicSeed.bytes depth
    (material.position depth ladder)
    (material.params.walk material.publicSeed.bytes (depth - low) low value)

/-- The same public key comes from the same ends under the same seed, unless its hash collides. -/
theorem same_ends_or_collision {forged body : Bytes}
    (whole : body.length = material.params.bodySize)
    (same : material.params.claimedKey forged body = material.publicKey) :
    CompressionCollision material.publicSeed.bytes material.ends (body.take seedSize)
        (material.params.claimedEnds forged body) ∨
      body.take seedSize = material.publicSeed.bytes ∧
        material.params.claimedEnds forged body = material.ends := by
  by_cases inputs : compressionInput material.publicSeed.bytes material.ends =
      compressionInput (body.take seedSize) (material.params.claimedEnds forged body)
  · right
    have seeds : material.publicSeed.bytes.length = (body.take seedSize).length := by
      rw [material.publicSeed.length_eq, List.length_take, whole, Params.bodySize]
      exact (Nat.min_eq_left (Nat.le_add_right ..)).symm
    obtain ⟨seed, ends⟩ := compressionInput_inj material.params.elementSize_pos seeds
      material.ends_sized (material.params.claimedEnds_sized forged body) inputs
    exact ⟨seed.symm, ends.symm⟩
  · left
    exact ⟨inputs, same.symm⟩

/-- A walk that ends where the key's ladder ends either passes through the key's position at a
given depth or joins the ladder above that depth. -/
theorem same_end_cases {ladder high low : Nat} {value : Bytes}
    (sized : value.length = material.params.elementSize) (lower : low ≤ high)
    (top : high ≤ ladderSteps)
    (same : material.params.walk material.publicSeed.bytes (ladderSteps - low) low value =
      material.position ladderSteps ladder) :
    material.params.walk material.publicSeed.bytes (high - low) low value =
        material.position high ladder ∨
      ∃ depth, high ≤ depth ∧ depth < ladderSteps ∧ material.JoinedAt ladder depth low value := by
  have middle : low + (high - low) = high := Nat.add_sub_cancel' lower
  have goesOn (steps : Nat) :
      material.params.walk material.publicSeed.bytes (high - low + steps) low value =
        material.params.walk material.publicSeed.bytes steps high
          (material.params.walk material.publicSeed.bytes (high - low) low value) := by
    rw [Params.walk_add, middle]
  -- From `high` on the ladder and the walk go side by side, and end together.
  have above : material.params.walk material.publicSeed.bytes (ladderSteps - high) high
      (material.position high ladder) =
        material.params.walk material.publicSeed.bytes (ladderSteps - high) high
          (material.params.walk material.publicSeed.bytes (high - low) low value) := by
    have parts : high - low + (ladderSteps - high) = ladderSteps - low := by omega
    rw [walk_position, Nat.add_sub_cancel' top, ← goesOn, parts, same]
  rcases material.params.walk_eq_cases _ (material.length_position high ladder)
    (material.params.length_walk _ _ _ sized) above with equal | joined
  · exact Or.inl equal.symm
  · right
    rcases joined with ⟨taken, within, merge⟩
    have steps : high - low + taken = high + taken - low := by omega
    rw [walk_position, ← goesOn, steps] at merge
    refine ⟨high + taken, Nat.le_add_right high taken, by omega, merge, ?_, merge.collision⟩
    have further : high + taken + 1 - low = high + taken - low + 1 := by omega
    have stands : low + (high + taken - low) = high + taken := by omega
    rw [position_succ, merge.merged, further, Params.walk_succ, stands]

/-- Ends that are claimed for a message and are the key's own end every claimed walk where the
key's ladder ends. -/
theorem walk_eq_end {forged body : Bytes} {ladder : Nat} {low : UInt8} {value : Bytes}
    (seed : body.take seedSize = material.publicSeed.bytes)
    (ends : material.params.claimedEnds forged body = material.ends)
    (atForged : (material.params.digits forged)[ladder]? = some low)
    (atBody : (material.params.bodyValues body)[ladder]? = some value) :
    material.params.walk material.publicSeed.bytes (ladderSteps - low.toNat) low.toNat value =
      material.position ladderSteps ladder := by
  have claimed := material.params.getElem?_claimedEnds atForged atBody
  have own := material.getElem?_ends (Params.ladder_lt_of_digit atForged)
  rw [seed, ends, own] at claimed
  exact (Option.some.inj claimed).symm

end KeyMaterial

/-! ### The forms of a forgery -/

/-- What a body that leads a message to the public key of a key amounts to, after the key has
signed another message. -/
inductive KeyMaterial.Forgery (material : KeyMaterial) (signed forged body : Bytes) : Prop where
  /-- Nothing tells the two messages apart. -/
  | sameDigest (same : material.params.digest signed = material.params.digest forged)
  /-- The public key's hash collides. -/
  | compression (collision : CompressionCollision material.publicSeed.bytes material.ends
      (body.take seedSize) (material.params.claimedEnds forged body))
  /-- The chain hash collides above what the signature shows of a ladder. -/
  | chain {ladder depth : Nat} {high low : UInt8} {value : Bytes}
      (lowers : material.params.LowerOn signed forged body ladder high low value)
      (seed : body.take seedSize = material.publicSeed.bytes)
      (above : high.toNat ≤ depth) (below : depth < ladderSteps)
      (joined : material.JoinedAt ladder depth low.toNat value)
  /-- The body knows a value below what the signature shows of a ladder. -/
  | preimage {ladder : Nat} {high low : UInt8} {value : Bytes}
      (lowers : material.params.LowerOn signed forged body ladder high low value)
      (reaches : material.params.walk (body.take seedSize) (high.toNat - low.toNat) low.toNat value =
        material.position high.toNat ladder)
      (shown : material.Shows (material.signatureOf signed) high.toNat ladder)

/-- The same ends as the key's own leave the last two forms, if the digests differ. -/
theorem KeyMaterial.forgery_of_ends {material : KeyMaterial} {signed forged body : Bytes}
    (different : material.params.digest signed ≠ material.params.digest forged)
    (whole : body.length = material.params.bodySize)
    (seed : body.take seedSize = material.publicSeed.bytes)
    (ends : material.params.claimedEnds forged body = material.ends) :
    material.Forgery signed forged body := by
  rcases material.params.digits_exceed different with ⟨ladder, high, low, atSigned, atForged, lower⟩
  obtain ⟨value, atBody⟩ :=
    material.params.exists_bodyValue whole (Params.ladder_lt_of_digit atForged)
  have lowers : material.params.LowerOn signed forged body ladder high low value :=
    ⟨atSigned, atForged, atBody, lower⟩
  have sized : value.length = material.params.elementSize :=
    material.params.bodyValues_sized value (List.mem_of_getElem? atBody)
  rcases material.same_end_cases sized (Nat.le_of_lt (UInt8.lt_iff_toNat_lt.1 lower))
    (toNat_le_ladderSteps high) (material.walk_eq_end seed ends atForged atBody)
    with equal | ⟨depth, above, below, joined⟩
  · apply KeyMaterial.Forgery.preimage lowers
    · rw [seed]
      exact equal
    · exact material.shows_signatureOf atSigned
  · exact KeyMaterial.Forgery.chain lowers seed above below joined

/-- Whatever decodes to the public key of a key is a forgery in one of these forms, relative to
any message that the key signs. -/
theorem forgery_of_decode {material : KeyMaterial} {fresh used kept : Key} {calls : List Call}
    {publicKey : PublicKey} {forged body : Bytes} (signed : Bytes)
    (made : Key.fromSeeds material.params material.secretSeed.bytes material.publicSeed.bytes =
      .ok fresh)
    (called : fresh.after calls = .ok used)
    (computed : used.computePublicKey.outcome = .ok (publicKey, kept))
    (decoded : (material.params.decode forged body).outcome = .ok publicKey) :
    used.sign signed = .ok (material.signatureOf signed) ∧
      material.Forgery signed forged body := by
  have reached : Key.Reached material used := Key.Reached.of_after made called
  refine ⟨reached.sign signed, ?_⟩
  obtain ⟨_, _, derived, -⟩ := reached.computePublicKey
  rw [derived] at computed
  cases computed
  rcases material.params.decode_ok decoded with ⟨whole, claimed⟩
  by_cases digests : material.params.digest signed = material.params.digest forged
  · exact KeyMaterial.Forgery.sameDigest digests
  · rcases material.same_ends_or_collision whole claimed with collision | ⟨seed, ends⟩
    · exact KeyMaterial.Forgery.compression collision
    · exact KeyMaterial.forgery_of_ends digests whole seed ends

/-- The signature that the key itself makes of another message is a forgery in this sense. -/
theorem forgery_of_decode_own_signature :
    (Level.level0.params.decode [1] ((KeyMaterial.zeros .level0).signatureOf [1]).tail).outcome =
        .ok (KeyMaterial.zeros .level0).publicKey ∧
      (Key.ofMaterial (KeyMaterial.zeros .level0)).sign [] =
        .ok ((KeyMaterial.zeros .level0).signatureOf []) ∧
      (KeyMaterial.zeros .level0).Forgery [] [1]
        ((KeyMaterial.zeros .level0).signatureOf [1]).tail := by
  have decoded : (Level.level0.params.decode [1]
      ((KeyMaterial.zeros .level0).signatureOf [1]).tail).outcome =
        .ok (KeyMaterial.zeros .level0).publicKey :=
    congrArg Report.outcome ((KeyMaterial.zeros .level0).decode_signatureOf [1])
  have start : Key.Reached (KeyMaterial.zeros .level0) (Key.ofMaterial (.zeros .level0)) :=
    Key.Reached.fresh
  obtain ⟨kept, events, computed, -⟩ := start.computePublicKey
  have kept : (Key.ofMaterial (KeyMaterial.zeros .level0)).computePublicKey.outcome =
      .ok ((KeyMaterial.zeros .level0).publicKey, kept) := by
    rw [computed]
  have unused : (Key.ofMaterial (KeyMaterial.zeros .level0)).after [] =
      .ok (Key.ofMaterial (KeyMaterial.zeros .level0)) := rfl
  have made := Key.fromSeeds_seeds Level.level0.params (KeyMaterial.zeros .level0).secretSeed
    (KeyMaterial.zeros .level0).publicSeed
  exact ⟨decoded, forgery_of_decode [] made unused kept decoded⟩

end Winternitz
