/-
Module: Winternitz.Proofs.Walk
Purpose: How walks on a ladder compose, and what two walks with the same end have in common.
Main exports: Params.walk_add, Params.length_walk, Params.Merge, Merge.collision,
  Params.walk_eq_cases
-/
import Winternitz.Proofs.Derivation

namespace Winternitz.Params

variable (params : Params) (publicSeed : Bytes)

/-! ### Sizes -/

theorem length_mask (depth : Nat) : (params.mask publicSeed depth).length = params.elementSize :=
  length_take_digest params.elementSize_fits _

theorem length_step (depth : Nat) (value : Bytes) :
    (params.step publicSeed depth value).length = params.elementSize :=
  length_take_digest params.elementSize_fits _

theorem length_walk (steps depth : Nat) {value : Bytes} (sized : value.length = params.elementSize) :
    (params.walk publicSeed steps depth value).length = params.elementSize := by
  induction steps generalizing depth value with
  | zero => exact sized
  | succ steps ih => exact ih (depth + 1) (params.length_step publicSeed depth value)

/-! ### Composition -/

/-- Where one walk stops another one may go on. -/
theorem walk_add (first second depth : Nat) (value : Bytes) :
    params.walk publicSeed (first + second) depth value =
      params.walk publicSeed second (depth + first) (params.walk publicSeed first depth value) := by
  induction first generalizing depth value with
  | zero => rw [Nat.zero_add, Nat.add_zero, walk]
  | succ first ih =>
      have further : depth + (first + 1) = depth + 1 + first := by omega
      rw [Nat.succ_add, walk, walk, ih, further]

/-- A walk of one more step ends one step above. -/
theorem walk_succ (steps depth : Nat) (value : Bytes) :
    params.walk publicSeed (steps + 1) depth value =
      params.step publicSeed (depth + steps) (params.walk publicSeed steps depth value) := by
  rw [walk_add]
  rfl

/-! ### Walks with the same end -/

/-- Two different inputs of the chain hash at one depth, of whose digests the same part is kept. -/
def ChainCollision (depth : Nat) (left right : Bytes) : Prop :=
  chainInput publicSeed (depth + 1).toUInt8 (left.xor (params.mask publicSeed depth)) ≠
      chainInput publicSeed (depth + 1).toUInt8 (right.xor (params.mask publicSeed depth)) ∧
    params.step publicSeed depth left = params.step publicSeed depth right

/-- Two values of the right size that differ at a depth and have the same successor. -/
structure Merge (depth : Nat) (left right : Bytes) : Prop where
  leftSized : left.length = params.elementSize
  rightSized : right.length = params.elementSize
  different : left ≠ right
  merged : params.step publicSeed depth left = params.step publicSeed depth right

/-- Masking keeps different values apart, so the hash itself must have brought them together. -/
theorem Merge.collision {depth : Nat} {left right : Bytes}
    (merge : params.Merge publicSeed depth left right) :
    params.ChainCollision publicSeed depth left right := by
  have unmask (value : Bytes) (sized : value.length = params.elementSize) :
      (value.xor (params.mask publicSeed depth)).xor (params.mask publicSeed depth) = value := by
    apply Bytes.xor_cancel
    exact Nat.le_of_eq (sized.trans (params.length_mask publicSeed depth).symm)
  -- The two inputs differ in the masked value alone, and a mask can be taken off again.
  constructor
  · intro same
    have masked : left.xor (params.mask publicSeed depth) =
        right.xor (params.mask publicSeed depth) := List.append_cancel_left same
    apply merge.different
    rw [← unmask left merge.leftSized, masked, unmask right merge.rightSized]
  · exact merge.merged

/-- Walks side by side end at the same value only if they start at the same value or merge on the
way. -/
theorem walk_eq_cases {steps depth : Nat} {left right : Bytes}
    (leftSized : left.length = params.elementSize)
    (rightSized : right.length = params.elementSize)
    (same : params.walk publicSeed steps depth left = params.walk publicSeed steps depth right) :
    left = right ∨ ∃ taken, taken < steps ∧
      params.Merge publicSeed (depth + taken) (params.walk publicSeed taken depth left)
        (params.walk publicSeed taken depth right) := by
  induction steps generalizing depth left right with
  | zero => exact Or.inl same
  | succ steps ih =>
      by_cases equal : left = right
      · exact Or.inl equal
      · right
        rcases ih (params.length_step ..) (params.length_step ..) same with merged | later
        · exact ⟨0, Nat.succ_pos _, leftSized, rightSized, equal, merged⟩
        · rcases later with ⟨taken, within, merge⟩
          have further : depth + (taken + 1) = depth + 1 + taken := by omega
          exact ⟨taken + 1, Nat.succ_lt_succ within, further ▸ merge⟩

end Winternitz.Params
