/-
Module: Winternitz.Hash.Hasher
Purpose: A hasher that is used again and again, and computations that pass one along.
Main exports: Hasher, Hasher.update, Hasher.reset, Hasher.oneShot, HasherCall.finalize,
  Hasher.finalize, Hasher.afterFinalize, Hasher.finalize_eq, Hasher.afterFinalize_eq, Hashing
-/
import Winternitz.Fault
import Winternitz.Hash.Family

namespace Winternitz

/-- A hasher of one family: the input since it was last empty. -/
structure Hasher (family : HashFamily) where
  absorber : Absorber family.algorithm

namespace Hasher

variable {family : HashFamily}

def fresh (family : HashFamily) : Hasher family := ⟨.fresh family.algorithm⟩

def update (hasher : Hasher family) (data : Bytes) : Hasher family :=
  ⟨hasher.absorber.absorb data⟩

def reset (_ : Hasher family) : Hasher family := fresh family

/-- The digest of `data` alone, whatever was taken in before, and the hasher emptied. -/
def oneShot (hasher : Hasher family) (data : Bytes) : Bytes × Hasher family :=
  ((hasher.reset.update data).absorber.output family.size, fresh family)

end Hasher

/-! ### Output -/

/-- A call on a hasher that may break a length contract after it has changed the hasher. -/
abbrev HasherCall (family : HashFamily) := ExceptT Fault (StateM (Hasher family))

namespace HasherCall

variable {family : HashFamily}

/-- An output in a buffer of `length` bytes, which must be neither longer nor shorter. -/
def copy (output : Bytes) (length : Nat) : HasherCall family Bytes :=
  if length = output.length then return output
  else throw (.outputSize output.length length)

/-- The hasher is emptied before the output is copied. -/
def finalizeDigest (length : Nat) : HasherCall family Bytes := do
  let output := (← get).absorber.output family.size
  set (Hasher.fresh family)
  copy output length

/-- The hasher is emptied after the output has been copied. -/
def finalizeBlake3 (length : Nat) : HasherCall family Bytes := do
  let output ← copy ((← get).absorber.output family.size) length
  set (Hasher.fresh family)
  return output

/-- The output is read to any length. -/
def finalizeExtendable (length : Nat) : HasherCall family Bytes := do
  let output := (← get).absorber.output length
  set (Hasher.fresh family)
  return output

/-- The output of `length` bytes for the input so far, the way the family's hashers give it. -/
def finalize (length : Nat) : HasherCall family Bytes :=
  match family with
  | .blake3_256 => finalizeBlake3 length
  | .shake256_2048 => finalizeExtendable length
  | _ => finalizeDigest length

section Runs

variable (hasher : Hasher family) (length : Nat)

theorem run_finalizeDigest :
    (finalizeDigest length).run.run hasher =
      (if length = family.size then .ok (hasher.absorber.output length)
        else .error (.outputSize family.size length), Hasher.fresh family) := by
  change (copy (hasher.absorber.output family.size) length).run.run (Hasher.fresh family) = _
  rw [copy, HashFamily.length_output]
  by_cases whole : length = family.size
  · subst whole
    rw [if_pos rfl, if_pos rfl]
    rfl
  · rw [if_neg whole, if_neg whole]
    rfl

theorem run_finalizeBlake3 :
    (finalizeBlake3 length).run.run hasher =
      if length = family.size then (.ok (hasher.absorber.output length), Hasher.fresh family)
      else (.error (.outputSize family.size length), hasher) := by
  change (copy (hasher.absorber.output family.size) length >>= fun output => do
    set (Hasher.fresh family)
    return output).run.run hasher = _
  rw [copy, HashFamily.length_output]
  by_cases whole : length = family.size
  · subst whole
    rw [if_pos rfl, if_pos rfl]
    rfl
  · rw [if_neg whole, if_neg whole]
    rfl

theorem run_finalizeExtendable :
    (finalizeExtendable length).run.run hasher =
      (.ok (hasher.absorber.output length), Hasher.fresh family) := rfl

/-- Only the extendable family gives another length than its digest size, and only a hasher whose
output is copied before it is emptied still holds its input after a refusal. -/
theorem run_finalize :
    (finalize length).run.run hasher =
      (if family = .shake256_2048 ∨ length = family.size then .ok (hasher.absorber.output length)
        else .error (.outputSize family.size length),
      if family = .blake3_256 ∧ length ≠ family.size then hasher else Hasher.fresh family) := by
  cases family
  case shake256_2048 =>
    rw [finalize, run_finalizeExtendable]
    rfl
  case blake3_256 =>
    rw [finalize, run_finalizeBlake3]
    by_cases whole : length = HashFamily.size .blake3_256 <;> simp [whole]
  all_goals
    simp only [finalize, run_finalizeDigest, reduceCtorEq, false_or, false_and, if_false]

end Runs

end HasherCall

namespace Hasher

variable {family : HashFamily}

/-- The output of `length` bytes for the input so far, and the hasher afterwards. -/
def finalize (hasher : Hasher family) (length : Nat) : Except Fault (Bytes × Hasher family) :=
  let (outcome, after) := (HasherCall.finalize length).run.run hasher
  outcome.map (·, after)

/-- The hasher that is left after output of `length` bytes was asked for, also if it was refused. -/
def afterFinalize (hasher : Hasher family) (length : Nat) : Hasher family :=
  ((HasherCall.finalize length).run.run hasher).2

/-- Every hasher is empty after it has given an output. -/
theorem finalize_eq (hasher : Hasher family) (length : Nat) :
    hasher.finalize length =
      if family = .shake256_2048 ∨ length = family.size then
        .ok (hasher.absorber.output length, fresh family)
      else .error (.outputSize family.size length) := by
  rw [finalize, HasherCall.run_finalize]
  by_cases gives : family = .shake256_2048 ∨ length = family.size
  · have emptied : ¬ (family = .blake3_256 ∧ length ≠ family.size) := by
      rintro ⟨rfl, other⟩
      exact gives.elim nofun other
    rw [if_pos gives, if_pos gives, if_neg emptied]
    rfl
  · rw [if_neg gives, if_neg gives]
    rfl

theorem afterFinalize_eq (hasher : Hasher family) (length : Nat) :
    hasher.afterFinalize length =
      if family = .blake3_256 ∧ length ≠ family.size then hasher else fresh family := by
  rw [afterFinalize, HasherCall.run_finalize]

/-- Input may be given in parts. -/
theorem update_append (hasher : Hasher family) (first second : Bytes) :
    hasher.update (first ++ second) = (hasher.update first).update second := by
  simp only [update, Absorber.absorb_append]

theorem oneShot_eq (hasher : Hasher family) (data : Bytes) :
    hasher.oneShot data = (family.digest data, fresh family) := rfl

end Hasher

/-! ### Computations with one hasher -/

/-- A computation that uses one hasher for all its digests. -/
abbrev Hashing (family : HashFamily) := StateT (Hasher family) (Except Fault)

namespace Hashing

variable {family : HashFamily}

def update (data : Bytes) : Hashing family Unit := modify (·.update data)

def reset : Hashing family Unit := modify Hasher.reset

/-- The output for the input so far; the hasher is empty afterwards. -/
def finalize (length : Nat) : Hashing family Bytes := fun hasher => hasher.finalize length

/-- The result of a computation that starts with an empty hasher. -/
def result {α : Type} (family : HashFamily) (computation : Hashing family α) : Except Fault α :=
  computation.run' (Hasher.fresh family)

end Hashing

end Winternitz
