/-
Module: Winternitz.Hash.Steps
Purpose: One hasher used step after step.
Main exports: HashStep, Hasher.perform, Hasher.run, absorbedAfter, HashFamily.answer
-/
import Winternitz.Hash.Hasher

namespace Winternitz

/-- What a caller can do with a hasher. -/
inductive HashStep where
  | update (data : Bytes)
  | reset
  /-- Asks for that many bytes of output for everything taken in. -/
  | finalize (length : Nat)
  | oneShot (data : Bytes)
deriving DecidableEq, Repr

namespace Hasher

variable {family : HashFamily}

/-- What a step gives, if it gives any bytes, and the hasher afterwards. -/
def perform (hasher : Hasher family) : HashStep → Except Fault (Option Bytes × Hasher family)
  | .update data => return (none, hasher.update data)
  | .reset => return (none, hasher.reset)
  | .finalize length => do
      let (output, hasher) ← hasher.finalize length
      return (some output, hasher)
  | .oneShot data =>
      let (digest, hasher) := hasher.oneShot data
      return (some digest, hasher)

/-- What steps made one after the other give, and the hasher after all of them.  A
broken length contract ends the run. -/
def run (hasher : Hasher family) : List HashStep → Except Fault (List (Option Bytes) × Hasher family)
  | [] => return ([], hasher)
  | step :: steps => do
      let (output, hasher) ← hasher.perform step
      let (outputs, hasher) ← hasher.run steps
      return (output :: outputs, hasher)

end Hasher

/-! ### What the steps alone say -/

/-- What a hasher has taken in since it was last empty, after one more step. -/
def HashStep.absorbed (taken : Bytes) : HashStep → Bytes
  | .update data => taken ++ data
  | .reset | .finalize _ | .oneShot _ => []

/-- What a hasher has taken in since it was last empty, after these steps. -/
def absorbedAfter (steps : List HashStep) : Bytes := steps.foldl HashStep.absorbed []

/-- The bytes that a step gives once a hasher has taken in `taken`. -/
def HashFamily.answer (family : HashFamily) (taken : Bytes) : HashStep → Option Bytes
  | .finalize length => some (family.outputOf taken length)
  | .oneShot data => some (family.outputOf data family.size)
  | .update _ | .reset => none

end Winternitz
