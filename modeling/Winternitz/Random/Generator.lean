/-
Module: Winternitz.Random.Generator
Purpose: Sources that draw from a generator: any one, one that counts, and the system's one while it
  does not fail.
Main exports: Generator, GeneratorSource, CountingGenerator, EntropyPool
-/
import Winternitz.Random.Source

namespace Winternitz

/-! ### Generators -/

/-- A generator that fills a whole buffer or fails with a reason: that of the system, or any other. -/
class Generator (γ : Type) where
  fill : γ → (length : Nat) → Except String { bytes : Bytes // bytes.length = length } × γ

/-- A generator used as a byte source, which has no short reads. -/
structure GeneratorSource (γ : Type) where
  generator : γ

instance {γ : Type} [Generator γ] : ByteSource (GeneratorSource γ) where
  read source length :=
    match Generator.fill source.generator length with
    | (.ok ⟨bytes, length_eq⟩, after) => (.ok (.filled bytes length_eq), ⟨after⟩)
    | (.error reason, after) => (.error ⟨reason⟩, ⟨after⟩)

/-! ### Counting -/

/-- How often a generator still works, and what it says afterwards. -/
structure Lifetime where
  reads : Nat
  reason : String

/-- A generator whose bytes grow by a fixed step, for as many reads as it lives. -/
structure CountingGenerator where
  next : UInt8
  step : UInt8
  lifetime : Option Lifetime

namespace CountingGenerator

def bytes (next step : UInt8) : Nat → Bytes
  | 0 => []
  | count + 1 => next :: bytes (next + step) step count

@[simp] theorem length_bytes (next step : UInt8) (count : Nat) :
    (bytes next step count).length = count := by
  induction count generalizing next with
  | zero => rfl
  | succ count ih => simp [bytes, ih]

def advance (generator : CountingGenerator) (count : Nat) : CountingGenerator :=
  { generator with next := generator.next + generator.step * count.toUInt8 }

instance : Generator CountingGenerator where
  fill generator length :=
    let filled : { bytes : Bytes // bytes.length = length } :=
      ⟨bytes generator.next generator.step length, length_bytes ..⟩
    match generator.lifetime with
    | none => (.ok filled, generator.advance length)
    | some ⟨0, reason⟩ => (.error reason, generator)
    | some ⟨reads + 1, reason⟩ =>
        (.ok filled, { generator.advance length with lifetime := some ⟨reads, reason⟩ })

end CountingGenerator

/-! ### A supply of bytes -/

/-- The system's generator as long as it does not fail: an unlimited supply of bytes, whatever they
are, of which the first are used up. -/
structure EntropyPool where
  supply : Nat → UInt8
  used : Nat

namespace EntropyPool

/-- The bytes of a supply from one place on. -/
def piece (supply : Nat → UInt8) (first length : Nat) : Bytes :=
  (List.range' first length).map supply

@[simp] theorem length_piece (supply : Nat → UInt8) (first length : Nat) :
    (piece supply first length).length = length := by
  simp [piece]

instance : ByteSource EntropyPool where
  read pool length :=
    (.ok (.filled (piece pool.supply pool.used length) (length_piece ..)),
      { pool with used := pool.used + length })

end EntropyPool

end Winternitz
