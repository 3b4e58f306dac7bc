/-
Module: Winternitz.Ladder.Walk
Purpose: What the positions of a ladder are, said without hashers or tables.
Main exports: Params.mask, Params.step, Params.walk
-/
import Winternitz.Derivation
import Winternitz.Params

namespace Winternitz.Params

/-!
A ladder is a chain of positions, numbered by depth.  One step masks the value
at a depth and hashes it together with the public seed and the next depth.  The
faster definitions elsewhere compute exactly these values.
-/

/-- The masking element of the step that leaves `depth`. -/
def mask (params : Params) (publicSeed : Bytes) (depth : Nat) : Bytes :=
  (params.prfHash.digest (prfInput publicSeed (depth + 1).toUInt8)).take params.elementSize

/-- The value one step above `value`, which stands at `depth`. -/
def step (params : Params) (publicSeed : Bytes) (depth : Nat) (value : Bytes) : Bytes :=
  let masked := value.xor (params.mask publicSeed depth)
  (params.prfHash.digest (chainInput publicSeed (depth + 1).toUInt8 masked)).take params.elementSize

/-- The value that many steps above `value`, which stands at `depth`. -/
def walk (params : Params) (publicSeed : Bytes) : (steps depth : Nat) → Bytes → Bytes
  | 0, _, value => value
  | steps + 1, depth, value => params.walk publicSeed steps (depth + 1) (params.step publicSeed depth value)

end Winternitz.Params
