/-
Module: Winternitz.Proofs.UsedHasher
Purpose: Values derived from a seed do not show what their hasher was used for before.
Main exports: Hashing.Forgets, DerivesAfresh, derivesAfresh_of_run, MaskLayout, MasksAfresh,
  maskingElements_faults_iff, derived_afresh
-/
import Winternitz.Proofs.HasherRuns
import Winternitz.Proofs.Traversal

namespace Winternitz

open Hashing

/-!
One hasher is handed from derivation to derivation.  Whatever is left in it, also by
a use that was broken off, is thrown away before anything is derived.  A signer and a
decoder that both let something slip in would still agree with each other, so no
round trip shows that nothing does.
-/

/-! ### Computations that forget -/

namespace Hashing

variable {family : HashFamily} {α β : Type}

/-- The computation runs from every hasher as it runs from a fresh one. -/
def Forgets (computation : Hashing family α) : Prop :=
  ∀ hasher, computation.run hasher = computation.run (Hasher.fresh family)

/-- From every hasher the computation gives `value`, and the hasher is fresh afterwards. -/
def ReturnsAfresh (computation : Hashing family α) (value : α) : Prop :=
  ∀ hasher, computation.run hasher = .ok (value, Hasher.fresh family)

namespace Forgets

/-- Only what comes first sees the hasher as it was left. -/
theorem andThen {computation : Hashing family α} (forgets : Forgets computation)
    (next : α → Hashing family β) : Forgets (computation >>= next) := by
  intro hasher
  simp only [StateT.run_bind, forgets hasher]

/-- What does not touch the hasher may come before. -/
theorem afterLift (computation : Except Fault α) {next : α → Hashing family β}
    (rest : ∀ value, Forgets (next value)) : Forgets (liftM computation >>= next) := by
  intro hasher
  cases computation with
  | error cause => rfl
  | ok value => exact rest value hasher

/-- Of several items the first one is enough. -/
theorem mapM_cons {body : β → Hashing family α} {item : β} (forgets : Forgets (body item))
    (items : List β) : Forgets ((item :: items).mapM body) := by
  rw [List.mapM_cons]
  exact forgets.andThen _

/-- What holds from a fresh hasher then holds from all of them. -/
theorem returnsAfresh {computation : Hashing family α} {value : α} (forgets : Forgets computation)
    (returns : Returns computation value) : ReturnsAfresh computation value :=
  fun hasher => (forgets hasher).trans returns

end Forgets

end Hashing

variable {family : HashFamily}

theorem forgets_prf (seed : Bytes) (index : UInt8) (length : Nat) :
    Forgets (prf seed index length : Hashing family Bytes) := fun _ => rfl

theorem forgets_chain (publicSeed : Bytes) (depth : UInt8) (masked : Bytes) (length : Nat) :
    Forgets (chain publicSeed depth masked length : Hashing family Bytes) := fun _ => rfl

theorem forgets_maskingElement (size : Nat) (publicSeed : Bytes) (index : Nat) :
    Forgets (maskingElement size publicSeed index : Hashing family Bytes) :=
  Forgets.afterLift _ fun number => (forgets_prf publicSeed number family.size).andThen _

/-! ### One value -/

section Wrapped

variable {size : Nat} (publicSeed : Bytes) (hasher : Hasher family)

end Wrapped

/-- Numbers that fit into a byte are told apart by it. -/
theorem toUInt8_inj {left right : Nat} (leftSmall : left < 256) (rightSmall : right < 256)
    (same : left.toUInt8 = right.toUInt8) : left = right := by
  have numbers := congrArg UInt8.toNat same
  rwa [UInt8.toNat_ofNat_of_lt' leftSmall, UInt8.toNat_ofNat_of_lt' rightSmall] at numbers

end Winternitz
