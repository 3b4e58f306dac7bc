/-
Module: Winternitz.Proofs.Hashing
Purpose: Rules for computations that pass one hasher along.
Main exports: Hashing.Returns, Returns.andThen, Returns.mapM, Returns.result,
  Hashing.run_finalize_size
-/
import Winternitz.Hash.Hasher

namespace Winternitz

/-!
Every digest of the scheme is made by a hasher that other digests were made
with before.  `Returns` says of a computation that it starts from an empty
hasher, succeeds, and leaves the hasher empty again; computations of which this
holds may follow each other without a trace of one in the next.
-/

theorem Fault.bind_of_ok {α β : Type} {computation : Except Fault α} {value : α}
    (next : α → Except Fault β) (ok : computation = .ok value) :
    computation >>= next = next value := by
  rw [ok]
  rfl

namespace Hashing

variable {family : HashFamily} {α β : Type}

/-- From an empty hasher the computation gives `value`, and the hasher is empty afterwards. -/
def Returns (computation : Hashing family α) (value : α) : Prop :=
  computation.run (Hasher.fresh family) = .ok (value, Hasher.fresh family)

/-! ### Peeling one step off a computation -/

theorem run_bind_of_ok {computation : Hashing family α} {next : α → Hashing family β}
    {hasher after : Hasher family} {value : α}
    (ok : computation.run hasher = .ok (value, after)) :
    (computation >>= next).run hasher = (next value).run after := by
  rw [StateT.run_bind, ok]
  rfl

theorem run_lift_of_ok {computation : Except Fault α} {hasher : Hasher family} {value : α}
    (ok : computation = .ok value) :
    (liftM computation : Hashing family α).run hasher = .ok (value, hasher) := by
  rw [ok]
  rfl

/-- A family's own digest size may be asked of every hasher. -/
theorem run_finalize_size (hasher : Hasher family) :
    (finalize family.size).run hasher =
      .ok (hasher.absorber.output family.size, Hasher.fresh family) := by
  change hasher.finalize family.size = _
  rw [Hasher.finalize_eq, if_pos (Or.inr rfl)]

/-! ### Computations from empty hasher to empty hasher -/

namespace Returns

theorem pure (value : α) : Returns (Pure.pure value : Hashing family α) value := rfl

theorem lift {computation : Except Fault α} {value : α} (ok : computation = .ok value) :
    Returns (liftM computation : Hashing family α) value :=
  run_lift_of_ok ok

theorem andThen {computation : Hashing family α} {next : α → Hashing family β} {value : α}
    {result : β} (first : Returns computation value) (rest : Returns (next value) result) :
    Returns (computation >>= next) result := by
  rw [Returns, run_bind_of_ok first]
  exact rest

/-- Items handled one after the other do not see each other. -/
theorem mapM {body : β → Hashing family α} {expected : β → α} {items : List β}
    (each : ∀ item ∈ items, Returns (body item) (expected item)) :
    Returns (items.mapM body) (items.map expected) := by
  induction items with
  | nil => exact pure []
  | cons item items ih =>
      have head : Returns (body item) (expected item) := each item (by simp)
      have tail : Returns (items.mapM body) (items.map expected) :=
        ih fun other member => each other (by simp [member])
      rw [List.mapM_cons]
      apply head.andThen
      apply tail.andThen
      exact pure (expected item :: items.map expected)

/-- What a computation returns is what its caller gets. -/
theorem result {computation : Hashing family α} {value : α} (returns : Returns computation value) :
    Hashing.result family computation = .ok value := by
  rw [Hashing.result, StateT.run'_eq, returns]
  rfl

end Returns

end Hashing

end Winternitz
