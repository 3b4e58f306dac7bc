/-
Module: Winternitz.Proofs.Bounds
Purpose: Every cut, number and size that a call computes stays in its range, so every call returns.
Main exports: Params.CutsFit, Params.NumbersFit, Params.SizesFit, Params.StagesReturn,
  Key.CallsReturn, Params.stays_in_bounds
-/
import Winternitz.Proofs.Caches
import Winternitz.Proofs.Checksum
import Winternitz.Proofs.Decode
import Winternitz.Proofs.LadderWalks
import Winternitz.Proofs.Signing

namespace Winternitz

/-!
Sizes are checked in two places only: when a parameter set is made, and when a
body is decoded.  A value fits into a digest, so does the signed part, and that
is short enough for a ladder's number to fit into a byte.  What a key or a
decoder cuts, copies, casts or allocates later is in range because of this, and
in the largest set, with 256 ladders of 256 values of 256 bytes each, with
nothing to spare.
-/

namespace Params

/-! ### What is cut and copied -/

/-- Every range lies inside what it is taken from, and has the length of what it is copied to. -/
structure CutsFit (params : Params) : Prop where
  /-- A byte string can be cut into values only if these are not empty. -/
  element_pos : 0 < params.elementSize
  /-- A hasher fills a buffer of its digest size, whatever it has taken in. -/
  output : ∀ family ∈ [params.prfHash, params.messageHash, publicKeyHash],
    ∀ hasher : Hasher family, ∃ output after,
      hasher.finalize family.size = .ok (output, after) ∧ output.length = family.size
  /-- A digest covers the part of it that becomes a value. -/
  element : ∀ data, ∃ value,
    (params.prfHash.digest data).slice 0 params.elementSize = .ok value ∧
      value.length = params.elementSize
  /-- A message's digest covers its signed part. -/
  signed : ∀ message, (params.digest message).length = params.messageSize
  /-- Every ladder has a digit, and no digit is left over. -/
  digits : ∀ message, ∃ digits,
    params.computeDigits message = .ok digits ∧ digits.length = params.ladders
  /-- The values of all ladders in one byte string are found one by one. -/
  values : ∀ points : Bytes, points.length = params.ladders * params.elementSize → ∃ values,
    Bytes.split params.elementSize points = .ok values ∧ values.length = params.ladders ∧
      ∀ value ∈ values, value.length = params.elementSize
  /-- Every step has its masking element, also where they lie one after the other. -/
  masks : ∀ publicSeed, ∃ masks,
    Hashing.result params.prfHash (maskingElements params.elementSize publicSeed) = .ok masks ∧
      ∀ depth, depth < ladderSteps → ∃ mask, masks[depth]? = some mask ∧
        Bytes.slice masks.flatten (depth * params.elementSize) params.elementSize = .ok mask ∧
        mask.length = params.elementSize
  /-- Every digit of every ladder is a position that can be read. -/
  found : ∀ (table : params.Positions) (digit : UInt8) ladder, ladder < params.ladders → ∃ value,
    table.element digit.toNat ladder = .ok value ∧ value.length = params.elementSize
  /-- What a step reaches on a ladder has its place in the table. -/
  recorded : ∀ (table : params.Positions) depth ladder value, depth < ladderSteps →
    ladder < params.ladders → value.length = params.elementSize → ∃ after,
      table.put (depth + 1) ladder value = .ok after
  /-- So have the first values, which fill a row. -/
  started : ∀ (table : params.Positions) points,
    points.length = params.ladders * params.elementSize → ∃ after, table.putRow 0 points = .ok after
  /-- A body of the right length is a public seed and a value for every ladder. -/
  body : ∀ body : Bytes, body.length = params.bodySize →
    body.slice 0 seedSize = .ok (body.take seedSize) ∧ (body.take seedSize).length = seedSize ∧
      (body.drop seedSize).length = params.ladders * params.elementSize

/-! ### Numbers in bytes and words -/

/-- No number loses anything in the type that it is put into. -/
structure NumbersFit (params : Params) : Prop where
  ladder : ∀ ladder, ladder < params.ladders → ∃ number,
    byteOf ladder = .ok number ∧ number.toNat = ladder
  /-- A step is numbered by the depth that it reaches. -/
  depth : ∀ depth, depth < ladderSteps → ∃ number,
    byteOf (depth + 1) = .ok number ∧ number.toNat = depth + 1
  /-- There is a walk for each ladder, which goes upwards and not beyond the last position. -/
  spans : ∀ traversal : Traversal params, ∃ spans,
    params.spans traversal = .ok spans ∧ spans.length = params.ladders ∧
      ∀ span ∈ spans, span.first ≤ span.last ∧ span.last ≤ ladderSteps
  /-- The checksum is a difference of 32-bit words that cannot become negative. -/
  sum : ∀ message, 255 * (params.digest message).length < UInt32.size ∧
    (params.digest message).total ≤ 255 * (params.digest message).length
  /-- The one or two bytes that are kept of it hold all of it. -/
  checksum : ∀ message, missing (params.digest message) <
    if params.messageSize = 1 then UInt8.size else UInt16.size

/-! ### Sizes and offsets -/

/-- Everything that is allocated, and every end of a range, is counted in 64 bits. -/
structure SizesFit (params : Params) : Prop where
  table : base * params.ladders * params.elementSize < UInt64.size
  values : params.ladders * params.elementSize < UInt64.size
  masks : ladderSteps * params.elementSize < UInt64.size
  signature : params.signatureSize < UInt64.size
  position : ∀ depth ladder, depth < base → ladder < params.ladders →
    Table.offset params.elementSize params.ladders depth ladder + params.elementSize < UInt64.size
  row : ∀ depth, depth < base →
    Table.offset params.elementSize params.ladders depth 0 +
      params.ladders * params.elementSize < UInt64.size
  mask : ∀ depth, depth < ladderSteps → (depth + 1) * params.elementSize < UInt64.size

/-! ### Stages of a call -/

/-- The stages from seeds to a public key each give the next one as much as it needs. -/
structure StagesReturn (params : Params) : Prop where
  secretElements : ∀ secretSeed publicSeed, ∃ points,
    (KeyMaterial.mk params secretSeed publicSeed).secretElements = .ok points ∧
      points.length = params.ladders * params.elementSize
  traverse : ∀ publicSeed points (traversal : Traversal params),
    points.length = params.ladders * params.elementSize → ∃ ends table,
      params.traverse publicSeed points traversal = .ok (ends, table) ∧
        ends.length = params.ladders * params.elementSize
  /-- The hash of the public key gives digests of exactly the size of its buffers. -/
  publicKey_size : publicKeyHash.size = publicKeySize
  compress : ∀ publicSeed ends, ends.length = params.ladders * params.elementSize → ∃ publicKey,
    compress publicSeed ends params.elementSize = .ok publicKey ∧ publicKey.length = publicKeySize

end Params

/-- Everything that one computes with a key gives a result of the right size. -/
structure Key.CallsReturn (key : Key) : Prop where
  computePublicKey : ∃ publicKey kept, key.computePublicKey.outcome = .ok (publicKey, kept) ∧
    publicKey.length = publicKeySize
  generate : ∃ kept, key.generate.outcome = .ok kept ∧ kept.isGenerated = true
  sign : ∀ message, ∃ signature,
    key.sign message = .ok signature ∧ signature.length = key.params.signatureSize

namespace Params

variable (params : Params)

/-! ### Cuts -/

theorem masks_sized (publicSeed : Bytes) :
    ∀ mask ∈ params.masks publicSeed, mask.length = params.elementSize := by
  intro mask member
  rcases List.mem_map.1 member with ⟨depth, -, rfl⟩
  exact params.length_mask publicSeed depth

/-- A masking element stands where the sizes of those before it add up to. -/
theorem slice_masks (publicSeed : Bytes) {depth : Nat} (inRange : depth < ladderSteps) :
    Bytes.slice (params.masks publicSeed).flatten (depth * params.elementSize) params.elementSize =
      .ok (params.mask publicSeed depth) := by
  have place := params.getElem?_masks publicSeed inRange
  rw [List.getElem?_toArray] at place
  exact Bytes.slice_flatten (params.masks_sized publicSeed) place

theorem cutsFit : params.CutsFit where
  element_pos := params.elementSize_pos
  output family _ hasher := ⟨_, _, Hashing.run_finalize_size hasher, family.length_output _⟩
  element data := ⟨_, slice_digest params.elementSize_fits data,
    length_take_digest params.elementSize_fits data⟩
  signed := params.length_digest
  digits message := ⟨_, params.computeDigits_eq message, params.length_digits message⟩
  values points whole := ⟨params.starts points, Bytes.split_of_pos params.elementSize_pos points,
    params.length_starts whole, params.starts_sized points⟩
  masks publicSeed := by
    refine ⟨_, (params.returns_masks publicSeed).result, ?_⟩
    intro depth inRange
    have place := params.getElem?_masks publicSeed inRange
    rw [List.getElem?_toArray] at place
    exact ⟨_, place, params.slice_masks publicSeed inRange,
      params.length_mask publicSeed depth⟩
  found table digit ladder wide :=
    ⟨_, table.element_eq digit.toNat_lt wide, table.length_value digit.toNat_lt wide⟩
  recorded table depth ladder value inRange wide sized := by
    have deep : depth + 1 < base := Nat.succ_lt_succ inRange
    obtain ⟨after, put, -⟩ := table.put_spec deep wide sized
    exact ⟨after, put⟩
  started table points whole := by
    obtain ⟨after, put, -⟩ := table.write_of_le
      (Table.offset_add_row_le params.elementSize params.ladders (by decide : 0 < base)) whole
    exact ⟨after, put⟩
  body body whole := by
    have covered : 0 + seedSize ≤ body.length := by
      rw [whole, bodySize]
      omega
    refine ⟨Bytes.slice_of_le covered, ?_, params.length_drop_seed whole⟩
    rw [List.length_take]
    omega

/-! ### Numbers -/

theorem exists_byteOf {value : Nat} (small : value < 256) :
    ∃ number, byteOf value = .ok number ∧ number.toNat = value :=
  ⟨value.toUInt8, byteOf_of_lt small, UInt8.toNat_ofNat_of_lt' small⟩

/-- The sum that a checksum is subtracted from is at most that of the longest digest. -/
theorem sum_digest_le (message : Bytes) :
    255 * (params.digest message).length ≤ 255 * maxMessageSize := by
  rw [params.length_digest]
  exact Nat.mul_le_mul_left 255 params.messageSize_le

/-- One byte holds the checksum of one byte, and two bytes that of every digest that is signed. -/
theorem missing_digest_lt (message : Bytes) :
    missing (params.digest message) <
      if params.messageSize = 1 then UInt8.size else UInt16.size := by
  have bound : missing (params.digest message) ≤ 255 * (params.digest message).length :=
    Nat.sub_le ..
  by_cases single : params.messageSize = 1
  · rw [if_pos single]
    rw [params.length_digest, single] at bound
    exact Nat.lt_of_le_of_lt bound (by decide)
  · rw [if_neg single]
    exact Nat.lt_of_le_of_lt (Nat.le_trans bound (params.sum_digest_le message)) (by decide)

theorem numbersFit : params.NumbersFit where
  ladder _ wide := exists_byteOf (Nat.lt_of_lt_of_le wide params.ladders_le)
  depth _ inRange := exists_byteOf (Nat.succ_lt_succ inRange)
  spans traversal := ⟨_, params.spans_eq traversal, params.length_plannedSpans traversal,
    params.plannedSpans_within traversal⟩
  sum message :=
    ⟨Nat.lt_of_le_of_lt (params.sum_digest_le message) (by decide), Bytes.total_le _⟩
  checksum := params.missing_digest_lt

/-! ### Sizes -/

theorem elementSize_le : params.elementSize ≤ 256 :=
  Nat.le_trans params.elementSize_fits params.prfHash.size_le

theorem table_size_le : base * params.ladders * params.elementSize ≤ base * base * 256 :=
  Nat.mul_le_mul (Nat.mul_le_mul_left base params.ladders_le) params.elementSize_le

/-- The table is the largest thing that is allocated. -/
theorem lt_size64 {size : Nat} (inside : size ≤ base * params.ladders * params.elementSize) :
    size < UInt64.size :=
  Nat.lt_of_le_of_lt (Nat.le_trans inside params.table_size_le) (by decide)

theorem sizesFit : params.SizesFit := by
  have values : 0 < params.ladders * params.elementSize :=
    Nat.mul_pos params.ladders_pos params.elementSize_pos
  have table : base * params.ladders * params.elementSize =
      256 * (params.ladders * params.elementSize) := Nat.mul_assoc ..
  have masks : ladderSteps * params.elementSize ≤ base * params.ladders * params.elementSize := by
    have rows : base * 1 ≤ base * params.ladders := Nat.mul_le_mul_left base params.ladders_pos
    exact Nat.mul_le_mul_right _ (Nat.le_trans (by decide) rows)
  constructor
  case table => exact params.lt_size64 (Nat.le_refl _)
  case values => exact params.lt_size64 (by omega)
  case masks => exact params.lt_size64 masks
  case signature =>
    apply params.lt_size64
    rw [table, signatureSize, bodySize, seedSize]
    omega
  case position =>
    intro depth ladder deep wide
    exact params.lt_size64 (Table.offset_add_le params.elementSize deep wide)
  case row =>
    intro depth deep
    exact params.lt_size64 (Table.offset_add_row_le params.elementSize params.ladders deep)
  case mask =>
    intro depth inRange
    exact params.lt_size64 (Nat.le_trans (Nat.mul_le_mul_right _ inRange) masks)

/-- The largest parameter set leaves nothing to spare: its last ladder has the largest number that a
byte holds. -/
example (params : Params) (longest : params.messageSize = maxMessageSize) :
    params.ladders = base := by
  rw [ladders, checksumSize, longest]
  decide

/-! ### Stages -/

theorem stagesReturn : params.StagesReturn where
  secretElements secretSeed publicSeed := by
    let material : KeyMaterial := ⟨params, secretSeed, publicSeed⟩
    refine ⟨_, material.secretElements_eq, ?_⟩
    rw [Bytes.length_flatten_of_sized material.firstValues_sized, material.length_firstValues]
  traverse publicSeed points traversal whole := by
    obtain ⟨after, walked, -⟩ := params.traverse_walked publicSeed whole traversal
    have holds := params.holdsWalks_walked publicSeed whole (params.length_plannedSpans traversal)
    exact ⟨_, after, walked, holds.length_eq⟩
  publicKey_size := rfl
  compress publicSeed ends whole := by
    have compressed := compress_eq params.elementSize_pos publicSeed (params.starts_sized ends)
    rw [params.flatten_starts whole] at compressed
    exact ⟨_, compressed, HashFamily.length_digest ..⟩

end Params

/-! ### Calls -/

theorem Key.Reached.params_eq {material : KeyMaterial} {key : Key}
    (reached : Key.Reached material key) : key.params = material.params := by
  cases reached <;> rfl

/-- In every state that calls lead to, every further call returns. -/
theorem Key.Reached.callsReturn {material : KeyMaterial} {key : Key}
    (reached : Key.Reached material key) : key.CallsReturn := by
  obtain ⟨kept, events, computed, -⟩ := reached.computePublicKey
  constructor
  case computePublicKey =>
    exact ⟨material.publicKey, kept, by rw [computed], HashFamily.length_digest ..⟩
  case generate =>
    obtain ⟨table, recording, -⟩ := material.record_spec
    cases reached with
    | fresh => exact ⟨_, by rw [Key.ofMaterial, Key.generate_empty recording], rfl⟩
    | derived => exact ⟨_, by rw [Key.generate_empty recording], rfl⟩
    | recorded complete => exact ⟨_, rfl, rfl⟩
  case sign =>
    intro message
    refine ⟨material.signatureOf message, reached.sign message, ?_⟩
    rw [reached.params_eq]
    exact material.size_signatureOf message

/-- Whatever the parameters, the seeds, the calls made before, the message and the bytes to decode:
every range that is cut or copied, every cast and every size on the way is within its bounds, so a
key computes its public key, generates its ladders and signs with or without them, and a decoder
gives a public key to every body of the right length and refuses every other one.  No call ever
ends with a fault. -/
theorem Params.stays_in_bounds (params : Params) :
    params.CutsFit ∧ params.NumbersFit ∧ params.SizesFit ∧ params.StagesReturn ∧
    (∀ (secretSeed publicSeed : Seed) (calls : List Call), ∃ fresh used,
      Key.fromSeeds params secretSeed.bytes publicSeed.bytes = .ok fresh ∧
      fresh.after calls = .ok used ∧
      used.params = params ∧ (used.isGenerated = true ↔ .request .generate ∈ calls) ∧
      used.CallsReturn) ∧
    ∀ message body : Bytes,
      (body.length = params.bodySize → ∃ publicKey,
        (params.decode message body).outcome = .ok publicKey ∧
          publicKey.length = publicKeySize) ∧
      (body.length ≠ params.bodySize → (params.decode message body).outcome =
        .error (.rejected (.invalidSignatureLength params.bodySize body.length))) := by
  refine ⟨params.cutsFit, params.numbersFit, params.sizesFit, params.stagesReturn, ?_, ?_⟩
  · intro secretSeed publicSeed calls
    obtain ⟨used, called, reached, generated⟩ :=
      Key.Reached.exists_after ⟨params, secretSeed, publicSeed⟩ calls
    exact ⟨_, used, Key.fromSeeds_seeds params secretSeed publicSeed, called, reached.params_eq,
      generated, reached.callsReturn⟩
  · intro message body
    constructor
    · intro whole
      exact ⟨_, by rw [params.decode_whole message whole]; rfl, HashFamily.length_digest ..⟩
    · intro wrong
      rw [params.decode_wrong message wrong]

end Winternitz
