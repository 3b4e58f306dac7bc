/-
Module: Winternitz.Proofs.Validation
Purpose: Which sizes and hashes make a parameter set, and what every parameter set guarantees.
Main exports: Params.Refused, Params.new_error_iff, Params.new_isOk_iff, Params.new_ok_iff,
  Params.Verdict, Params.DigitsFit, Params.accepted_sets
-/
import Winternitz.Proofs.Digits
import Winternitz.Proofs.Dispatch

namespace Winternitz.Params

/-!
A parameter set cannot exist outside its bounds, so validation has two sides: no
sizes and hashes within the bounds are refused, and whatever is refused is refused
for the first bound that it breaks.  The number of ladders is derived from the
sizes alone, the digits of a message from its checksum, and both must agree.
-/

section Verdicts

variable {elementSize messageSize : Nat} {prfHash messageHash : HashFamily}

/-! ### Verdicts -/

/-- The refusal of two sizes and two hashes: the first bound that is broken, all bounds before it
being kept. -/
inductive Refused (elementSize messageSize : Nat) (prfHash messageHash : HashFamily) :
    Error → Prop where
  | element (empty : elementSize = 0) :
      Refused elementSize messageSize prfHash messageHash (.invalidElementSize elementSize)
  | message (element : 1 ≤ elementSize) (outside : messageSize < 1 ∨ 254 < messageSize) :
      Refused elementSize messageSize prfHash messageHash (.invalidMessageSize messageSize)
  | prf (element : 1 ≤ elementSize) (message : 1 ≤ messageSize ∧ messageSize ≤ 254)
      (small : prfHash.size < elementSize) :
      Refused elementSize messageSize prfHash messageHash (.hashTooSmall .prf prfHash elementSize)
  | digest (element : 1 ≤ elementSize) (message : 1 ≤ messageSize ∧ messageSize ≤ 254)
      (prf : elementSize ≤ prfHash.size) (small : messageHash.size < messageSize) :
      Refused elementSize messageSize prfHash messageHash
        (.hashTooSmall .message messageHash messageSize)

/-- All bounds are kept. -/
def Bounded (elementSize messageSize : Nat) (prfHash messageHash : HashFamily) : Prop :=
  1 ≤ elementSize ∧ elementSize ≤ prfHash.size ∧ 1 ≤ messageSize ∧
    messageSize ≤ min 254 messageHash.size

/-- One of the bounds is the first that is broken, unless all are kept. -/
theorem bounded_or_refused (elementSize messageSize : Nat) (prfHash messageHash : HashFamily) :
    Bounded elementSize messageSize prfHash messageHash ∨
      ∃ error, Refused elementSize messageSize prfHash messageHash error := by
  by_cases empty : elementSize = 0
  · exact Or.inr ⟨_, .element empty⟩
  have element : 1 ≤ elementSize := Nat.pos_of_ne_zero empty
  by_cases outside : messageSize < 1 ∨ 254 < messageSize
  · exact Or.inr ⟨_, .message element outside⟩
  have message : 1 ≤ messageSize ∧ messageSize ≤ 254 := by omega
  by_cases small : prfHash.size < elementSize
  · exact Or.inr ⟨_, .prf element message small⟩
  have prf : elementSize ≤ prfHash.size := Nat.le_of_not_lt small
  by_cases narrow : messageHash.size < messageSize
  · exact Or.inr ⟨_, .digest element message prf narrow⟩
  have digest : messageSize ≤ min 254 messageHash.size :=
    Nat.le_min.2 ⟨message.2, Nat.le_of_not_lt narrow⟩
  exact Or.inl ⟨element, prf, message.1, digest⟩

/-- Within the bounds there is a parameter set, and it is made of exactly these parts. -/
theorem new_of_bounded (bounded : Bounded elementSize messageSize prfHash messageHash) :
    ∃ params, Params.new elementSize messageSize prfHash messageHash = .ok params ∧
      params.fields = (elementSize, messageSize, prfHash, messageHash) := by
  obtain ⟨element, prf, message, digest⟩ := bounded
  obtain ⟨limit, digest⟩ := Nat.le_min.1 digest
  let params : Params := ⟨elementSize, messageSize, prfHash, messageHash, element, message, limit,
    prf, digest⟩
  exact ⟨params, params.new_fields, rfl⟩

theorem new_of_refused {error : Error}
    (refused : Refused elementSize messageSize prfHash messageHash error) :
    Params.new elementSize messageSize prfHash messageHash = .error error := by
  have positive (element : 1 ≤ elementSize) : ¬ elementSize = 0 := Nat.ne_of_gt element
  have inside (message : 1 ≤ messageSize ∧ messageSize ≤ 254) :
      ¬ (messageSize < 1 ∨ maxMessageSize < messageSize) :=
    not_or.2 ⟨Nat.not_lt.2 message.1, Nat.not_lt.2 message.2⟩
  cases refused with
  | element empty => rw [Params.new, dif_pos empty]
  | message element outside =>
      have outside : messageSize < 1 ∨ maxMessageSize < messageSize := outside
      rw [Params.new, dif_neg (positive element), dif_pos outside]
  | prf element message small =>
      rw [Params.new, dif_neg (positive element), dif_neg (inside message), dif_pos small]
  | digest element message prf small =>
      rw [Params.new, dif_neg (positive element), dif_neg (inside message),
        dif_neg (Nat.not_lt.2 prf), dif_pos small]

theorem new_error_iff {error : Error} :
    Params.new elementSize messageSize prfHash messageHash = .error error ↔
      Refused elementSize messageSize prfHash messageHash error := by
  refine ⟨?_, new_of_refused⟩
  intro failed
  rcases bounded_or_refused elementSize messageSize prfHash messageHash with
    bounded | ⟨other, refused⟩
  · obtain ⟨params, made, -⟩ := new_of_bounded bounded
    rw [made] at failed
    cases failed
  · have same : other = error := by simpa [new_of_refused refused] using failed
    rwa [same] at refused

/-- Of two broken bounds the first one is reported. -/
example : Params.new 0 255 .sha2_224 .sha2_224 = .error (.invalidElementSize 0) := rfl

theorem bounded_of_made {params : Params}
    (made : Params.new elementSize messageSize prfHash messageHash = .ok params) :
    Bounded elementSize messageSize prfHash messageHash := by
  rcases bounded_or_refused elementSize messageSize prfHash messageHash with
    bounded | ⟨error, refused⟩
  · exact bounded
  · rw [new_of_refused refused] at made
    cases made

theorem new_isOk_iff :
    (∃ params, Params.new elementSize messageSize prfHash messageHash = .ok params) ↔
      Bounded elementSize messageSize prfHash messageHash := by
  constructor
  · rintro ⟨params, made⟩
    exact bounded_of_made made
  · intro bounded
    obtain ⟨params, made, -⟩ := new_of_bounded bounded
    exact ⟨params, made⟩

/-- A parameter set is what its own parts make, and nothing else makes it. -/
theorem new_ok_iff {params : Params} :
    Params.new elementSize messageSize prfHash messageHash = .ok params ↔
      params.fields = (elementSize, messageSize, prfHash, messageHash) := by
  constructor
  · intro made
    obtain ⟨other, same, fields⟩ := new_of_bounded (bounded_of_made made)
    rw [made, Except.ok.injEq] at same
    rwa [same]
  · intro fields
    simp only [Params.fields, Prod.mk.injEq] at fields
    obtain ⟨rfl, rfl, rfl, rfl⟩ := fields
    exact params.new_fields

end Verdicts

/-- What becomes of two sizes and two hashes. -/
structure Verdict (elementSize messageSize : Nat) (prfHash messageHash : HashFamily) : Prop where
  accepted : (∃ params, Params.new elementSize messageSize prfHash messageHash = .ok params) ↔
    1 ≤ elementSize ∧ elementSize ≤ prfHash.size ∧ 1 ≤ messageSize ∧
      messageSize ≤ min 254 messageHash.size
  made : ∀ params, Params.new elementSize messageSize prfHash messageHash = .ok params ↔
    params.elementSize = elementSize ∧ params.messageSize = messageSize ∧
      params.prfHash = prfHash ∧ params.messageHash = messageHash
  refused : ∀ error, Params.new elementSize messageSize prfHash messageHash = .error error ↔
    Refused elementSize messageSize prfHash messageHash error

theorem verdict (elementSize messageSize : Nat) (prfHash messageHash : HashFamily) :
    Verdict elementSize messageSize prfHash messageHash where
  accepted := new_isOk_iff
  made params := by simp [new_ok_iff, fields]
  refused _ := new_error_iff

/-! ### Digits -/

/-- The digits of a message fill the ladders: the signed bytes of its digest first, then their
checksum, of which there is exactly as much as there are ladders left. -/
structure DigitsFit (params : Params) (message digits : Bytes) : Prop where
  length_eq : digits.length = params.ladders
  signed : digits.take params.messageSize =
    (params.messageHash.digest message).take params.messageSize
  checked : digits.drop params.messageSize = checksum (digits.take params.messageSize)

theorem digitsFit (params : Params) (message : Bytes) :
    params.DigitsFit message (params.digits message) := by
  have start : (params.digits message).take params.messageSize = params.digest message :=
    List.take_left' (params.length_digest message)
  refine ⟨params.length_digits message, start, ?_⟩
  rw [start]
  exact List.drop_left' (params.length_digest message)

/-! ### All of it -/

/-- Two sizes and two hashes make a parameter set exactly within the bounds and are refused for the
first bound that they break; every parameter set then has at most 256 ladders and a digit for each
of them, whatever the message; two sets are equal exactly if their sizes and hashes are, and the
levels' sets, which are written down unchecked, pass the checks. -/
theorem accepted_sets :
    (∀ elementSize messageSize prfHash messageHash,
      Verdict elementSize messageSize prfHash messageHash) ∧
    (∀ (params : Params) (message : Bytes), ∃ digits,
      params.computeDigits message = .ok digits ∧ params.DigitsFit message digits) ∧
    (∀ params : Params, params.ladders ≤ 256) ∧
    (∀ left right : Params, left.equal right = true ↔
      left.elementSize = right.elementSize ∧ left.messageSize = right.messageSize ∧
        left.prfHash = right.prfHash ∧ left.messageHash = right.messageHash) ∧
    ∀ level : Level, Params.new level.params.elementSize level.params.messageSize
      level.params.prfHash level.params.messageHash = .ok level.params := by
  refine ⟨verdict, ?_, ladders_le, ?_, fun level => level.params.new_fields⟩
  · intro params message
    exact ⟨_, params.computeDigits_eq message, params.digitsFit message⟩
  · intro left right
    rw [equal_iff, ← fields_inj]
    simp [fields]

end Winternitz.Params
