/-
Module: Winternitz.Proofs.Separation
Purpose: Nothing that is hashed for a key is hashed for two purposes.
Main exports: HashInput, HashInput.Occurs, HashInput.Twins, KeyMaterial.input,
  KeyMaterial.HashesInputs, KeyMaterial.input_eq_iff, KeyMaterial.inputs_apart
-/
import Winternitz.Proofs.Decode
import Winternitz.Proofs.Material
import Winternitz.Proofs.UsedHasher

namespace Winternitz

open Hashing

/-!
No input names its purpose.  What keeps the purposes apart is the length, and among
inputs of one length the seed and the byte after it.  That byte has to hold the number
of every ladder and of every depth: a number that came round to zero would give two
ladders the same first value, which no signature and no check would show.
-/

/-- What is hashed for a purpose, with everything that goes into it but the seeds. -/
inductive HashInput where
  /-- For the first value of a ladder. -/
  | first (ladder : Nat)
  /-- For the masking element of the step that reaches a depth. -/
  | mask (depth : Nat)
  /-- For the step that reaches a depth, with the masked value of the depth before. -/
  | step (depth : Nat) (masked : Bytes)
  /-- For the public key with these ladder ends. -/
  | compression (ends : List Bytes)
deriving DecidableEq, Repr

namespace HashInput

/-- The inputs that there are for a parameter set. -/
def Occurs (params : Params) : HashInput → Prop
  | first ladder => ladder < params.ladders
  | mask depth => 1 ≤ depth ∧ depth ≤ 255
  | step depth masked => (1 ≤ depth ∧ depth ≤ 255) ∧ masked.length = params.elementSize
  | compression ends =>
      ends.length = params.ladders ∧ ∀ value ∈ ends, value.length = params.elementSize

/-- A first value and a masking element with one number, which only their seeds tell apart. -/
def Twins : HashInput → HashInput → Prop
  | first ladder, mask depth => ladder = depth
  | mask depth, first ladder => depth = ladder
  | _, _ => False

/-- The number of bytes of an input. -/
def size (params : Params) : HashInput → Nat
  | first _ | mask _ => 33
  | step _ _ => 33 + params.elementSize
  | compression _ => 64 + params.ladders * params.elementSize

end HashInput

namespace KeyMaterial

variable (material : KeyMaterial)

/-- The bytes that are hashed. -/
def input : HashInput → Bytes
  | .first ladder => prfInput material.secretSeed.bytes ladder.toUInt8
  | .mask depth => prfInput material.publicSeed.bytes depth.toUInt8
  | .step depth masked => chainInput material.publicSeed.bytes depth.toUInt8 masked
  | .compression ends => compressionInput material.publicSeed.bytes ends

/-! ### What is derived from the inputs -/

/-- The part of an input's digest that is a value on a ladder. -/
def valueFrom (input : HashInput) : Bytes :=
  (material.params.prfHash.digest (material.input input)).take material.params.elementSize

/-- All that is derived for a key, and for a decoder under its public seed, but the digests of
messages and the tweak: each time from an input that occurs, whatever the hasher was used for
before. -/
structure HashesInputs : Prop where
  first : ∀ ladder, ladder < material.params.ladders →
    (HashInput.first ladder).Occurs material.params ∧
    ReturnsAfresh (secretElement material.params material.secretSeed.bytes ladder)
      (material.valueFrom (.first ladder))
  mask : ∀ depth, depth < ladderSteps →
    (HashInput.mask (depth + 1)).Occurs material.params ∧
    ReturnsAfresh (maskingElement material.params.elementSize material.publicSeed.bytes depth :
      Hashing material.params.prfHash Bytes) (material.valueFrom (.mask (depth + 1)))
  step : ∀ depth value, depth < ladderSteps → value.length = material.params.elementSize →
    ∃ masked, masked = value.xor (material.params.mask material.publicSeed.bytes depth) ∧
    (HashInput.step (depth + 1) masked).Occurs material.params ∧
    ReturnsAfresh (Params.climbStep material.params.elementSize
        (material.params.masks material.publicSeed.bytes).toArray material.publicSeed.bytes depth
        value : Hashing material.params.prfHash Bytes)
      (material.valueFrom (.step (depth + 1) masked))
  compression : ∀ ends, (HashInput.compression ends).Occurs material.params →
    compress material.publicSeed.bytes ends.flatten material.params.elementSize =
      .ok (publicKeyHash.digest (material.input (.compression ends)))
  /-- The ends of the key's own ladders are among those ends, -/
  own : (HashInput.compression material.ends).Occurs material.params ∧
    material.derivePublicKey =
      .ok (publicKeyHash.digest (material.input (.compression material.ends)))
  /-- and so are those that a decoder comes to. -/
  decoded : ∀ message body publicKey, body.take seedSize = material.publicSeed.bytes →
    (material.params.decode message body).outcome = .ok publicKey →
    ∃ ends, (HashInput.compression ends).Occurs material.params ∧
      publicKey = publicKeyHash.digest (material.input (.compression ends))

theorem forgets_secretElement (params : Params) (secretSeed : Bytes) (ladder : Nat) :
    Forgets (secretElement params secretSeed ladder) :=
  Forgets.afterLift _ fun number => (forgets_prf secretSeed number params.prfHash.size).andThen _

theorem forgets_climbStep (params : Params) (publicSeed : Bytes) {depth : Nat}
    (inRange : depth < ladderSteps) (value : Bytes) :
    Forgets (Params.climbStep params.elementSize (params.masks publicSeed).toArray publicSeed depth
      value : Hashing params.prfHash Bytes) := by
  simp only [Params.climbStep, params.getElem?_masks publicSeed inRange]
  exact Forgets.afterLift _ fun number =>
    (forgets_chain publicSeed number _ params.prfHash.size).andThen _

theorem hashesInputs : material.HashesInputs where
  first ladder wide :=
    ⟨wide, (forgets_secretElement _ _ ladder).returnsAfresh (material.returns_secretElement wide)⟩
  mask depth inRange :=
    ⟨⟨Nat.succ_pos depth, inRange⟩, (forgets_maskingElement _ _ depth).returnsAfresh
      (returns_maskingElement material.params.elementSize_fits inRange _)⟩
  step depth value inRange sized := by
    refine ⟨_, rfl, ⟨⟨Nat.succ_pos depth, inRange⟩, ?_⟩, ?_⟩
    · simp [sized, material.params.length_mask]
    · exact (forgets_climbStep material.params _ inRange value).returnsAfresh
        (material.params.returns_climbStep _ inRange value)
  compression ends occurs := compress_eq material.params.elementSize_pos _ occurs.2
  own := ⟨⟨material.length_ends, material.ends_sized⟩, material.derivePublicKey_eq⟩
  decoded message body publicKey shared outcome := by
    obtain ⟨whole, rfl⟩ := material.params.decode_ok outcome
    refine ⟨material.params.claimedEnds message body,
      ⟨material.params.length_claimedEnds message whole,
        material.params.claimedEnds_sized message body⟩, ?_⟩
    rw [Params.claimedKey, shared]
    rfl

/-! ### Inputs of different purposes -/

theorem length_input {input : HashInput} (occurs : input.Occurs material.params) :
    (material.input input).length = input.size material.params := by
  have secretSeed : material.secretSeed.bytes.length = 32 := material.secretSeed.length_eq
  have publicSeed : material.publicSeed.bytes.length = 32 := material.publicSeed.length_eq
  cases input with
  | first ladder => simp [KeyMaterial.input, prfInput, HashInput.size, secretSeed]
  | mask depth => simp [KeyMaterial.input, prfInput, HashInput.size, publicSeed]
  | step depth masked =>
      have masked_length : masked.length = material.params.elementSize := occurs.2
      simp only [KeyMaterial.input, chainInput, HashInput.size, List.length_append, publicSeed,
        masked_length, List.length_singleton]
  | compression ends =>
      have joined : ends.flatten.length = material.params.ladders * material.params.elementSize := by
        rw [Bytes.length_flatten_of_sized occurs.2, occurs.1]
      simp only [KeyMaterial.input, length_compressionInput, HashInput.size, publicSeed,
        publicKeySize, joined]

/-- With no ladder at all the input of a step could be as long as that of a public key. -/
theorem elementSize_le_ends (params : Params) :
    params.elementSize ≤ params.ladders * params.elementSize :=
  Nat.le_mul_of_pos_left _ params.ladders_pos

/-! ### Inputs of one purpose -/

theorem prfInput_inj {leftSeed rightSeed : Seed} {left right : Nat} (leftSmall : left < 256)
    (rightSmall : right < 256)
    (same : prfInput leftSeed.bytes left.toUInt8 = prfInput rightSeed.bytes right.toUInt8) :
    leftSeed = rightSeed ∧ left = right := by
  have seeds : leftSeed.bytes.length = rightSeed.bytes.length :=
    leftSeed.length_eq.trans rightSeed.length_eq.symm
  obtain ⟨seed, number⟩ := List.append_inj same seeds
  refine ⟨?_, toUInt8_inj leftSmall rightSmall (List.singleton_inj.1 number)⟩
  cases leftSeed
  cases rightSeed
  simpa using seed

theorem chainInput_inj {publicSeed leftMasked rightMasked : Bytes} {left right : Nat}
    (leftSmall : left < 256) (rightSmall : right < 256)
    (same : chainInput publicSeed left.toUInt8 leftMasked =
      chainInput publicSeed right.toUInt8 rightMasked) :
    left = right ∧ leftMasked = rightMasked := by
  obtain ⟨header, masked⟩ := List.append_inj same (by simp)
  have number := List.append_cancel_left header
  exact ⟨toUInt8_inj leftSmall rightSmall (List.singleton_inj.1 number), masked⟩

/-- An input shows its purpose and everything else that went into it, unless the key has only one
seed: then a first value and a masking element with one number have the same input. -/
theorem input_eq_iff {one other : HashInput} (oneOccurs : one.Occurs material.params)
    (otherOccurs : other.Occurs material.params) :
    material.input one = material.input other ↔
      one = other ∨ material.secretSeed = material.publicSeed ∧ one.Twins other := by
  have fits (ladder : Nat) (wide : ladder < material.params.ladders) : ladder < 256 :=
    Nat.lt_of_lt_of_le wide material.params.ladders_le
  constructor
  · intro same
    have lengths := congrArg List.length same
    rw [material.length_input oneOccurs, material.length_input otherOccurs] at lengths
    have positive := material.params.elementSize_pos
    have ends := elementSize_le_ends material.params
    cases one <;> cases other <;> simp only [HashInput.size] at lengths
    case first.first =>
      obtain ⟨-, rfl⟩ := prfInput_inj (fits _ oneOccurs) (fits _ otherOccurs) same
      exact .inl rfl
    case first.mask =>
      obtain ⟨seeds, ladder⟩ :=
        prfInput_inj (fits _ oneOccurs) (Nat.lt_succ_of_le otherOccurs.2) same
      exact .inr ⟨seeds, ladder⟩
    case mask.first =>
      obtain ⟨seeds, depth⟩ :=
        prfInput_inj (Nat.lt_succ_of_le oneOccurs.2) (fits _ otherOccurs) same
      exact .inr ⟨seeds.symm, depth⟩
    case mask.mask =>
      obtain ⟨-, rfl⟩ := prfInput_inj (Nat.lt_succ_of_le oneOccurs.2)
        (Nat.lt_succ_of_le otherOccurs.2) same
      exact .inl rfl
    case step.step =>
      obtain ⟨rfl, rfl⟩ := chainInput_inj (Nat.lt_succ_of_le oneOccurs.1.2)
        (Nat.lt_succ_of_le otherOccurs.1.2) same
      exact .inl rfl
    case compression.compression =>
      obtain ⟨-, rfl⟩ := compressionInput_inj material.params.elementSize_pos rfl oneOccurs.2
        otherOccurs.2 same
      exact .inl rfl
    -- Any other two purposes have inputs of different lengths.
    all_goals omega
  · rintro (rfl | ⟨seeds, twins⟩)
    · rfl
    · cases one <;> cases other <;> simp only [HashInput.Twins] at twins
      all_goals
        subst twins
        simp only [input, seeds]

/-- For every key: what is derived from its seeds, by the key or by a decoder, comes from inputs that
occur, and no two of these are the same bytes unless they have the same purpose, the same number and
the same payload, or they are a first value's and a masking element's with one number under one and
the same seed.  No two ladders have the same input for their first values. -/
theorem inputs_apart (material : KeyMaterial) :
    material.HashesInputs ∧
    (∀ one other : HashInput, one.Occurs material.params → other.Occurs material.params →
      (material.input one = material.input other ↔
        one = other ∨ material.secretSeed = material.publicSeed ∧ one.Twins other)) ∧
    ∀ ladder other, ladder < material.params.ladders → other < material.params.ladders →
      ladder ≠ other → material.input (.first ladder) ≠ material.input (.first other) := by
  refine ⟨material.hashesInputs, fun _ _ => material.input_eq_iff, ?_⟩
  intro ladder other wide otherWide different same
  have occurs : (HashInput.first ladder).Occurs material.params := wide
  have otherOccurs : (HashInput.first other).Occurs material.params := otherWide
  rcases (material.input_eq_iff occurs otherOccurs).1 same with equal | ⟨-, twins⟩
  · exact different (HashInput.first.inj equal)
  · exact twins

end KeyMaterial

end Winternitz
