/-
Module: Winternitz.Hash.Absorber
Purpose: Incremental input to a hash that consumes whole blocks.
Main exports: BlockHash, Absorber, Absorber.drain, Absorber.absorb, absorb_append
-/
import Winternitz.Bytes

namespace Winternitz

/-!
A block hash consumes its input in blocks of one size and treats the last block
apart.  An absorber therefore holds back a full block until more input follows:
only then is it known not to be the last.  Main statement: absorbing two byte
strings one after the other is absorbing their concatenation, so a digest never
shows how its input was split.
-/

/-- A hash that consumes its input block by block. -/
structure BlockHash where
  State : Type
  blockSize : Nat
  blockSize_pos : 0 < blockSize
  start : State
  compress : State → Bytes → State
  /-- The first bytes of the output, once the rest of the input (at most one block) is known. -/
  output : State → Bytes → Nat → Bytes

/-- What a block hash knows of the input so far: a state for the consumed
blocks, and the bytes that are still held back. -/
structure Absorber (hash : BlockHash) where
  state : hash.State
  pending : Bytes

namespace Absorber

variable {hash : BlockHash}

def fresh (hash : BlockHash) : Absorber hash := ⟨hash.start, []⟩

/-- Consumes blocks as long as more input follows them. -/
def drain (state : hash.State) (pending : Bytes) : Absorber hash :=
  if pending.drop hash.blockSize = [] then
    ⟨state, pending⟩
  else
    drain (hash.compress state (pending.take hash.blockSize)) (pending.drop hash.blockSize)
termination_by pending.length
decreasing_by
  rename_i more
  have positive := hash.blockSize_pos
  have long : hash.blockSize < pending.length := by
    simpa [List.drop_eq_nil_iff] using more
  simp only [List.length_drop]
  omega

def absorb (absorber : Absorber hash) (data : Bytes) : Absorber hash :=
  drain absorber.state (absorber.pending ++ data)

/-- The first `length` bytes of the output for everything taken in. -/
def output (absorber : Absorber hash) (length : Nat) : Bytes :=
  hash.output absorber.state absorber.pending length

/-- Input that fits into one block is only held back. -/
theorem drain_short (state : hash.State) {pending : Bytes}
    (short : pending.length ≤ hash.blockSize) : drain state pending = ⟨state, pending⟩ := by
  rw [drain, if_pos (List.drop_eq_nil_iff.2 short)]

/-- Input after a full block releases that block. -/
theorem drain_long (state : hash.State) {pending : Bytes}
    (long : hash.blockSize < pending.length) :
    drain state pending =
      drain (hash.compress state (pending.take hash.blockSize)) (pending.drop hash.blockSize) := by
  rw [drain, if_neg]
  rw [List.drop_eq_nil_iff]
  omega

/-- Draining early loses nothing: what is held back goes in front of what follows. -/
theorem drain_append (state : hash.State) (pending data : Bytes) :
    drain state (pending ++ data) =
      drain (drain state pending).state ((drain state pending).pending ++ data) := by
  induction state, pending using drain.induct with
  | case1 state pending short =>
    rw [drain_short state (List.drop_eq_nil_iff.1 short)]
  | case2 state pending more ih =>
    have long : hash.blockSize < pending.length := by
      simpa [List.drop_eq_nil_iff] using more
    rw [drain_long state long, ← ih, drain_long state (by simp; omega)]
    rw [List.take_append_of_le_length (by omega), List.drop_append_of_le_length (by omega)]

/-- A byte string may be taken in whole or in two parts. -/
theorem absorb_append (absorber : Absorber hash) (first second : Bytes) :
    absorber.absorb (first ++ second) = (absorber.absorb first).absorb second := by
  rw [absorb, absorb, absorb, ← List.append_assoc, drain_append]

end Absorber

end Winternitz
