/-
Module: Winternitz.Proofs.Material
Purpose: Key generation and both ways of signing compute the positions that the seeds determine.
Main exports: KeyMaterial.derivePublicKey_eq, KeyMaterial.record_spec,
  KeyMaterial.signByWalking_eq, KeyMaterial.signByTable_eq
-/
import Winternitz.Key.Positions
import Winternitz.Proofs.Compression
import Winternitz.Proofs.Traversal

namespace Winternitz

open Hashing

namespace KeyMaterial

variable (material : KeyMaterial)

/-! ### The first values -/

/-- The first values of all ladders. -/
def firstValues : List Bytes := (List.range material.params.ladders).map material.firstValue

theorem length_firstValues : material.firstValues.length = material.params.ladders := by
  rw [firstValues, List.length_map, List.length_range]

theorem length_firstValue (ladder : Nat) :
    (material.firstValue ladder).length = material.params.elementSize :=
  length_take_digest material.params.elementSize_fits _

theorem firstValues_sized :
    ∀ value ∈ material.firstValues, value.length = material.params.elementSize := by
  intro value member
  rcases List.mem_map.1 member with ⟨ladder, -, rfl⟩
  exact material.length_firstValue ladder

theorem getElem?_firstValues {ladder : Nat} (wide : ladder < material.params.ladders) :
    material.firstValues[ladder]? = some (material.firstValue ladder) := by
  rw [firstValues, List.getElem?_map, List.getElem?_range wide]
  rfl

/-- Every ladder's number fits into the byte that tells its first value from the others. -/
theorem returns_secretElement {ladder : Nat} (wide : ladder < material.params.ladders) :
    Returns (secretElement material.params material.secretSeed.bytes ladder)
      (material.firstValue ladder) := by
  have small : ladder < 256 := Nat.lt_of_lt_of_le wide material.params.ladders_le
  rw [secretElement]
  apply (Returns.lift (byteOf_of_lt small)).andThen
  apply (returns_prf material.secretSeed.bytes _).andThen
  exact Returns.lift (slice_digest material.params.elementSize_fits _)

theorem secretElements_eq : material.secretElements = .ok material.firstValues.flatten := by
  have elements : Returns ((List.range material.params.ladders).mapM
      (secretElement material.params material.secretSeed.bytes)) material.firstValues := by
    apply Returns.mapM
    intro ladder member
    exact material.returns_secretElement (List.mem_range.1 member)
  rw [secretElements]
  apply Returns.result
  apply elements.andThen
  exact Returns.pure _

/-! ### Positions -/

theorem length_position (depth ladder : Nat) :
    (material.position depth ladder).length = material.params.elementSize :=
  material.params.length_walk _ _ _ (material.length_firstValue ladder)

theorem length_ends : material.ends.length = material.params.ladders := by
  simp [ends]

theorem ends_sized : ∀ value ∈ material.ends, value.length = material.params.elementSize := by
  intro value member
  rcases List.mem_map.1 member with ⟨ladder, -, rfl⟩
  exact material.length_position ladderSteps ladder

theorem getElem?_ends {ladder : Nat} (inside : ladder < material.params.ladders) :
    material.ends[ladder]? = some (material.position ladderSteps ladder) := by
  rw [ends, List.getElem?_map, List.getElem?_range inside]
  rfl

theorem walks_whole (points : List Bytes) (count : Nat) (aligned : points.length = count) :
    material.params.walks material.publicSeed.bytes points (List.replicate count ⟨0, ladderSteps⟩) =
      points.map (material.params.walk material.publicSeed.bytes ladderSteps 0) := by
  induction points generalizing count with
  | nil => rfl
  | cons point points ih =>
      cases count with
      | zero => simp at aligned
      | succ count =>
          have rest := ih count (by simpa using aligned)
          rw [Params.walks] at rest
          rw [Params.walks, List.replicate_succ, List.zipWith_cons_cons, rest]
          rfl

theorem walks_firstValues :
    material.params.walks material.publicSeed.bytes material.firstValues
      (List.replicate material.params.ladders ⟨0, ladderSteps⟩) = material.ends := by
  rw [material.walks_whole _ _ material.length_firstValues, firstValues, List.map_map, ends]
  apply List.map_congr_left
  intro ladder _
  rw [Function.comp_apply, position]

/-! ### Key generation -/

/-- The public key is computed as the digest of the ladders' ends. -/
theorem derivePublicKey_eq : material.derivePublicKey = .ok material.publicKey := by
  obtain ⟨after, walked, -⟩ := material.params.traverse_spec material.publicSeed.bytes
    material.length_firstValues material.firstValues_sized .full
  have ends : material.params.walks material.publicSeed.bytes material.firstValues
      (material.params.plannedSpans .full) = material.ends := material.walks_firstValues
  rw [ends] at walked
  rw [derivePublicKey, Fault.bind_of_ok _ material.secretElements_eq]
  change (material.params.traverse _ _ _ >>= _) = _
  rw [Fault.bind_of_ok _ walked]
  exact compress_eq material.params.elementSize_pos _ material.ends_sized

/-- A table with every position of every ladder of the key. -/
def Recorded (table : material.params.Positions) : Prop :=
  ∀ depth ladder, depth < base → ladder < material.params.ladders →
    table.value depth ladder = material.position depth ladder

/-- Recording fills the whole table, and finds the same public key. -/
theorem record_spec : ∃ table, material.record = .ok (table, material.publicKey) ∧
    material.Recorded table := by
  obtain ⟨start, put, row⟩ :=
    (Table.empty material.params.elementSize material.params.ladders).putRow_spec
      (by decide : 0 < base) material.length_firstValues material.firstValues_sized
  obtain ⟨after, walked, table, rfl, recorded⟩ :=
    material.params.traverse_spec material.publicSeed.bytes material.length_firstValues
      material.firstValues_sized (.record start)
  have ends : material.params.walks material.publicSeed.bytes material.firstValues
      (material.params.plannedSpans (.record start)) = material.ends := material.walks_firstValues
  rw [ends] at walked
  refine ⟨table, ?_, ?_⟩
  · rw [record, Fault.bind_of_ok _ material.secretElements_eq, Fault.bind_of_ok _ put]
    change (material.params.traverse _ _ _ >>= _) = _
    rw [Fault.bind_of_ok _ walked]
    change (compress _ _ _ >>= _) = _
    rw [Fault.bind_of_ok _
      (compress_eq material.params.elementSize_pos _ material.ends_sized)]
    rfl
  · intro depth ladder deep wide
    have walks := material.params.recordedOnAll_whole material.publicSeed.bytes
      (material.getElem?_firstValues wide) wide depth
    rw [recorded depth ladder wide]
    change (material.params.recordedOnAll _ 0 _ (List.replicate _ _) depth ladder).getD _ = _
    rw [walks]
    -- Row 0 was put there before the walks, which record from depth 1 on.
    cases depth with
    | zero =>
        have first := (row 0 ladder wide).1 rfl
        rw [material.getElem?_firstValues wide, Option.some.injEq] at first
        exact first.symm
    | succ depth =>
        rw [if_pos ⟨Nat.succ_pos depth, Nat.le_of_lt_succ deep⟩]
        rfl

/-! ### Signing -/

/-- What walks up to the digits of a message reach is what its signature reveals. -/
theorem walks_sign (message : Bytes) :
    material.params.walks material.publicSeed.bytes material.firstValues
      (material.params.plannedSpans (.sign message)) = material.revealed message := by
  rw [Params.walks, firstValues, Params.plannedSpans, List.zipWith_map]
  rfl

theorem signByWalking_eq (message : Bytes) :
    material.signByWalking message = .ok (material.signatureOf message) := by
  obtain ⟨after, walked, -⟩ := material.params.traverse_spec material.publicSeed.bytes
    material.length_firstValues material.firstValues_sized (.sign message)
  rw [material.walks_sign message] at walked
  rw [signByWalking, Fault.bind_of_ok _ material.secretElements_eq]
  change (material.params.traverse _ _ _ >>= _) = _
  rw [Fault.bind_of_ok _ walked]
  rfl

variable {material} in
/-- Looking up the digits from a ladder on finds the positions of these ladders. -/
theorem lookUp_eq {table : material.params.Positions} (recorded : material.Recorded table)
    (ladder : Nat) (digits : Bytes) (wide : ladder + digits.length ≤ material.params.ladders) :
    lookUp table ladder digits =
      .ok (List.zipWith (fun ladder digit => material.position digit.toNat ladder)
        (List.range' ladder digits.length) digits) := by
  induction digits generalizing ladder with
  | nil => rfl
  | cons digit digits ih =>
      rw [List.length_cons] at wide
      have deep : digit.toNat < base := digit.toNat_lt
      have inside : ladder < material.params.ladders := by omega
      have found : table.element digit.toNat ladder = .ok (material.position digit.toNat ladder) := by
        rw [table.element_eq deep inside, recorded _ _ deep inside]
      rw [lookUp, Fault.bind_of_ok _ found, Fault.bind_of_ok _ (ih (ladder + 1) (by omega))]
      rfl

variable {material} in
/-- A table that holds all positions gives the signature that walking gives. -/
theorem signByTable_eq {table : material.params.Positions} (recorded : material.Recorded table)
    (message : Bytes) : material.signByTable table message = .ok (material.signatureOf message) := by
  have count : (material.params.digits message).length = material.params.ladders :=
    material.params.length_digits message
  have found := lookUp_eq recorded 0 (material.params.digits message)
    (Nat.le_of_eq (by rw [Nat.zero_add, count]))
  rw [count, ← List.range_eq_range'] at found
  rw [signByTable, Fault.bind_of_ok _ (material.params.computeDigits_eq message),
    Fault.bind_of_ok _ found]
  rfl

end KeyMaterial

end Winternitz
