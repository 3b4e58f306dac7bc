/-
Module: Winternitz.Ladder.Traversal
Purpose: Walking all ladders of a key or a signature with one hasher.
Main exports: Traversal, Params.spans, Params.traverse
-/
import Winternitz.Derivation
import Winternitz.Digits
import Winternitz.Ladder.Table

namespace Winternitz

abbrev Params.Positions (params : Params) := Table params.elementSize params.ladders

/-- Which part of every ladder is walked, and what is kept on the way. -/
inductive Traversal (params : Params) where
  | full
  /-- Like `full`, and every position reached is recorded.  The first row is the caller's. -/
  | record (table : params.Positions)
  | sign (message : Bytes)
  | decode (message : Bytes)

/-- A part of a ladder, by its two depths. -/
structure Span where
  first : Nat
  last : Nat
deriving DecidableEq, Repr

namespace Params

variable {family : HashFamily}

/-- The part of each ladder that a traversal walks. -/
def spans (params : Params) : Traversal params → Except Fault (List Span)
  | .full | .record _ => .ok (List.replicate params.ladders ⟨0, ladderSteps⟩)
  | .sign message => do
      return (← params.computeDigits message).map fun digit => ⟨0, digit.toNat⟩
  | .decode message => do
      return (← params.computeDigits message).map fun digit => ⟨digit.toNat, ladderSteps⟩

/-- The value one step above `value`, which stands at `depth`. -/
def climbStep (size : Nat) (masks : Array Bytes) (publicSeed : Bytes) (depth : Nat) (value : Bytes) :
    Hashing family Bytes := do
  let some mask := masks[depth]? | throw (.outOfRange (depth + 1) masks.size)
  let number ← byteOf (depth + 1)
  let output ← chain publicSeed number (value.xor mask) family.size
  output.slice 0 size

/-- Records a value, if a table is kept at all. -/
def keep {size ladders : Nat} (depth ladder : Nat) (value : Bytes) :
    Option (Table size ladders) → Except Fault (Option (Table size ladders))
  | none => .ok none
  | some table => do return some (← table.put depth ladder value)

/-- Walks `steps` steps from `depth` on one ladder. -/
def climb {size ladders : Nat} (masks : Array Bytes) (publicSeed : Bytes) (ladder : Nat) :
    (steps depth : Nat) → Bytes → Option (Table size ladders) →
      Hashing family (Bytes × Option (Table size ladders))
  | 0, _, value, table => return (value, table)
  | steps + 1, depth, value, table => do
      let value ← climbStep size masks publicSeed depth value
      let table ← keep (depth + 1) ladder value table
      climb masks publicSeed ladder steps (depth + 1) value table

/-- Walks one ladder after the other, each from its own point and over its own span. -/
def climbAll {size ladders : Nat} (masks : Array Bytes) (publicSeed : Bytes) :
    (ladder : Nat) → List Bytes → List Span → Option (Table size ladders) →
      Hashing family (List Bytes × Option (Table size ladders))
  | _, [], [], table => return ([], table)
  | ladder, point :: points, span :: spans, table => do
      let (value, table) ← climb masks publicSeed ladder (span.last - span.first) span.first point table
      let (values, table) ← climbAll masks publicSeed (ladder + 1) points spans table
      return (value :: values, table)
  | _, points, spans, _ => throw (.lengthMismatch spans.length points.length)

/-- Walks all ladders from `points`, one value for each.  The result is where
each walk ends, in the same order, and the table if one was to be filled. -/
def traverse (params : Params) (publicSeed points : Bytes) (traversal : Traversal params) :
    Except Fault (Bytes × Option params.Positions) := do
  let spans ← params.spans traversal
  let starts ← Bytes.split params.elementSize points
  let table := match traversal with
    | .record table => some table
    | _ => none
  Hashing.result params.prfHash do
    let masks ← maskingElements params.elementSize publicSeed
    let (values, table) ← climbAll masks.toArray publicSeed 0 starts spans table
    return (values.flatten, table)

end Params

end Winternitz
