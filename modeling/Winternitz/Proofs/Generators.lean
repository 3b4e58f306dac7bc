/-
Module: Winternitz.Proofs.Generators
Purpose: What a generator gives, read after read, and the keys that are made from one.
Main exports: SeedFill, KeyFill, Key.keyFill_fromSource, Key.entropy_of_fromSource,
  EntropyPool.readEach_joined, EntropyPool.fillsSeeds, CountingGenerator.CountsAs,
  CountingGenerator.readEach_counting
-/
import Winternitz.Proofs.Seeding
import Winternitz.Random.Generator

namespace Winternitz

/-!
A byte source may claim a number of bytes that is not the one it wrote.  A generator has
no such number to get wrong: it fills the whole buffer or says why it could not.
-/

/-- Every read is answered. -/
theorem ByteSource.length_readEach {Source : Type} [ByteSource Source] (source : Source)
    (lengths : List Nat) : (ByteSource.readEach source lengths).1.length = lengths.length := by
  induction lengths generalizing source with
  | nil => rfl
  | cons length lengths ih => simp [ByteSource.readEach, ih]

section Generators

variable {γ : Type} [Generator γ]

/-! ### Keys from a generator -/

/-- One fill of a seed: what it gives, and the generator afterwards. -/
inductive SeedFill (before : γ) : Except Error Seed → γ → Prop where
  | failed {reason : String} {after : γ}
      (fill : Generator.fill before 32 = (.error reason, after)) :
      SeedFill before (.error (.entropy ⟨reason⟩)) after
  | filled {bytes : { bytes : Bytes // bytes.length = 32 }} {after : γ}
      (fill : Generator.fill before 32 = (.ok bytes, after)) :
      SeedFill before (.ok ⟨bytes.1, bytes.2⟩) after

/-- An attempt to make a key from a generator: what comes of it, and the generator afterwards. -/
inductive KeyFill (params : Params) (before : γ) : Except Error Key → γ → Prop where
  /-- The generator's own reason is passed on, and it is not used again. -/
  | secretFailed {error : Error} {after : γ}
      (secretFill : SeedFill before (.error error) after) :
      KeyFill params before (.error error) after
  | publicFailed {secretSeed : Seed} {between after : γ} {error : Error}
      (secretFill : SeedFill before (.ok secretSeed) between)
      (publicFill : SeedFill between (.error error) after) :
      KeyFill params before (.error error) after
  | made {secretSeed publicSeed : Seed} {between after : γ} {key : Key}
      (secretFill : SeedFill before (.ok secretSeed) between)
      (publicFill : SeedFill between (.ok publicSeed) after)
      (made : Key.MadeOf params secretSeed.bytes publicSeed.bytes key) :
      KeyFill params before (.ok key) after

namespace GeneratorSource

variable {source after : GeneratorSource γ}

theorem read_of_error {length : Nat} {reason : String} {generator : γ}
    (fill : Generator.fill source.generator length = (.error reason, generator)) :
    ByteSource.read source length = (.error ⟨reason⟩, ⟨generator⟩) := by
  simp only [ByteSource.read, fill]

theorem read_of_ok {length : Nat} {bytes : { bytes : Bytes // bytes.length = length }}
    {generator : γ} (fill : Generator.fill source.generator length = (.ok bytes, generator)) :
    ByteSource.read source length = (.ok (.filled bytes.1 bytes.2), ⟨generator⟩) := by
  simp only [ByteSource.read, fill]

/-- A seed is never read short. -/
theorem seedFill_of_seedRead {role : SeedRole} {answer : Except Error Seed}
    (seedRead : SeedRead role source answer after) :
    SeedFill source.generator answer after.generator := by
  rcases fill : Generator.fill source.generator 32 with ⟨filled, generator⟩
  cases filled with
  | error reason =>
      have answered := read_of_error fill
      cases seedRead with
      | failed read =>
          obtain ⟨⟨⟩, rfl⟩ := Prod.mk.inj (answered.symm.trans read)
          exact .failed fill
      | short read | whole read => cases answered.symm.trans read
  | ok bytes =>
      have answered := read_of_ok fill
      cases seedRead with
      | failed read => cases answered.symm.trans read
      | short read other =>
          cases answered.symm.trans read
          exact absurd rfl other
      | whole read count_eq =>
          cases answered.symm.trans read
          exact .filled fill

end GeneratorSource

namespace Key

/-- Every attempt to make a key from a generator goes this way. -/
theorem keyFill_fromSource (params : Params) (generator : γ) :
    ∃ outcome after, fromSource params (GeneratorSource.mk generator) = (outcome, ⟨after⟩) ∧
      KeyFill params generator outcome after := by
  obtain ⟨outcome, ⟨after⟩, lengths, ran, -, keyRead⟩ :=
    keyRead_fromSource params (GeneratorSource.mk generator)
  refine ⟨outcome, after, ran, ?_⟩
  cases keyRead with
  | secretRefused secretRead =>
      exact .secretFailed (GeneratorSource.seedFill_of_seedRead secretRead)
  | publicRefused secretRead publicRead =>
      exact .publicFailed (GeneratorSource.seedFill_of_seedRead secretRead)
        (GeneratorSource.seedFill_of_seedRead publicRead)
  | made secretRead publicRead made =>
      exact .made (GeneratorSource.seedFill_of_seedRead secretRead)
        (GeneratorSource.seedFill_of_seedRead publicRead) made

/-- No key from a generator is refused for anything but a failure of the generator. -/
theorem entropy_of_fromSource {params : Params} {generator : γ} {error : Error}
    (refused : (fromSource params (GeneratorSource.mk generator)).1 = .error error) :
    ∃ reason, error = .entropy ⟨reason⟩ := by
  obtain ⟨outcome, after, ran, keyFill⟩ := keyFill_fromSource params generator
  rw [ran] at refused
  subst refused
  cases keyFill with
  | secretFailed fill | publicFailed _ fill =>
      cases fill
      exact ⟨_, rfl⟩

end Key

end Generators

/-! ### A supply -/

namespace EntropyPool

theorem piece_append (supply : Nat → UInt8) (first length more : Nat) :
    piece supply first length ++ piece supply (first + length) more =
      piece supply first (length + more) := by
  rw [piece, piece, ← List.map_append, List.range'_append_1, piece]

/-- Reads of any lengths fill their buffers with consecutive pieces of the supply.  Joined they are one
piece of it: no byte is left out and none is given twice. -/
theorem readEach_joined (supply : Nat → UInt8) (used : Nat) (lengths : List Nat) :
    ∃ pieces : List Bytes,
      ByteSource.readEach (EntropyPool.mk supply used) lengths =
        (pieces.map fun bytes => .ok (bytes.length, bytes),
          ⟨supply, used + pieces.flatten.length⟩) ∧
      pieces.map List.length = lengths ∧
      pieces.flatten = piece supply used pieces.flatten.length := by
  induction lengths generalizing used with
  | nil => exact ⟨[], rfl, rfl, rfl⟩
  | cons length lengths ih =>
      obtain ⟨pieces, ran, lengths_eq, joined⟩ := ih (used + length)
      refine ⟨piece supply used length :: pieces, ?_, ?_, ?_⟩
      · rw [Nat.add_assoc] at ran
        simp only [ByteSource.readEach, ByteSource.read, ran, List.map_cons, length_piece,
          List.flatten_cons, List.length_append]
        rfl
      · rw [List.map_cons, length_piece, lengths_eq]
      · rw [List.flatten_cons, List.length_append, length_piece, ← piece_append, ← joined]

/-- The seed that is read at a place of a supply. -/
def seedAt (supply : Nat → UInt8) (first : Nat) : Seed :=
  ⟨piece supply first 32, length_piece ..⟩

/-- A key gets the next 64 bytes, whatever they are. -/
theorem fillsSeeds (pool : EntropyPool) :
    FillsSeeds pool (seedAt pool.supply pool.used) (seedAt pool.supply (pool.used + 32)) :=
  ⟨_, _, rfl, rfl⟩

end EntropyPool

/-! ### Counting -/

namespace CountingGenerator

/-- The next bytes of a generator are those of a supply, as far as the generator lives. -/
def CountsAs (generator : CountingGenerator) (pool : EntropyPool) : Prop :=
  ∀ place, pool.supply (pool.used + place) = generator.next + generator.step * place.toUInt8

/-- There is such a supply for every generator. -/
theorem countsAs_supply (generator : CountingGenerator) :
    generator.CountsAs
      ⟨fun place => generator.next + generator.step * place.toUInt8, 0⟩ := by
  intro place
  simp only [Nat.zero_add]

theorem bytes_eq_piece {next step : UInt8} {supply : Nat → UInt8} {first : Nat}
    (counts : ∀ place, supply (first + place) = next + step * place.toUInt8) (count : Nat) :
    bytes next step count = EntropyPool.piece supply first count := by
  induction count generalizing next first with
  | zero => rfl
  | succ count ih =>
      have rest (place : Nat) : supply (first + 1 + place) = next + step + step * place.toUInt8 := by
        have further : (1 + place).toUInt8 = 1 + place.toUInt8 := UInt8.ofNat_add 1 place
        rw [Nat.add_assoc, counts, further, UInt8.mul_add, UInt8.mul_one, UInt8.add_assoc]
      have now : supply first = next := by
        simpa using counts 0
      rw [bytes, ih rest, EntropyPool.piece, EntropyPool.piece, List.range'_succ, List.map_cons, now]

/-- Both go on with the same bytes after a read. -/
theorem CountsAs.advance {generator : CountingGenerator} {pool : EntropyPool}
    (counts : generator.CountsAs pool) (length : Nat) (lifetime : Option Lifetime) :
    CountsAs { generator.advance length with lifetime := lifetime }
      { pool with used := pool.used + length } := by
  intro place
  have further : (length + place).toUInt8 = length.toUInt8 + place.toUInt8 :=
    UInt8.ofNat_add length place
  simp only [CountingGenerator.advance]
  rw [Nat.add_assoc, counts, further, UInt8.mul_add, UInt8.add_assoc]

/-- What is left of answers when a generator lives this long. -/
def outlived (lifetime : Option Lifetime) (answers : List (Except RandomError (Nat × Bytes))) :
    List (Except RandomError (Nat × Bytes)) :=
  match lifetime with
  | none => answers
  | some ⟨reads, reason⟩ =>
      answers.take reads ++ List.replicate (answers.length - reads) (.error ⟨reason⟩)

/-- A generator that lived long enough says so at every further read. -/
theorem readEach_dead {generator : CountingGenerator} {reason : String}
    (dead : generator.lifetime = some ⟨0, reason⟩) (lengths : List Nat) :
    (ByteSource.readEach (GeneratorSource.mk generator) lengths).1 =
      List.replicate lengths.length (.error ⟨reason⟩) := by
  induction lengths with
  | nil => rfl
  | cons length lengths ih =>
      have fill : Generator.fill generator length = (.error reason, generator) := by
        simp only [Generator.fill, dead]
      simp only [ByteSource.readEach, GeneratorSource.read_of_error fill, ih, List.length_cons,
        List.replicate_succ]
      rfl

/-- What a read takes from the life of a generator. -/
inductive Spends : Option Lifetime → Option Lifetime → Prop where
  | endless : Spends none none
  | once (reads : Nat) (reason : String) : Spends (some ⟨reads + 1, reason⟩) (some ⟨reads, reason⟩)

theorem outlived_cons {lifetime left : Option Lifetime} (spends : Spends lifetime left)
    (answer : Except RandomError (Nat × Bytes))
    (answers : List (Except RandomError (Nat × Bytes))) :
    outlived lifetime (answer :: answers) = answer :: outlived left answers := by
  cases spends with
  | endless => rfl
  | once reads reason => simp [outlived]

theorem readEach_alive {generator : CountingGenerator} {left : Option Lifetime}
    (spends : Spends generator.lifetime left) (length : Nat) (lengths : List Nat) :
    (ByteSource.readEach (GeneratorSource.mk generator) (length :: lengths)).1 =
      .ok (length, bytes generator.next generator.step length) ::
        (ByteSource.readEach
          (GeneratorSource.mk { generator.advance length with lifetime := left }) lengths).1 := by
  obtain ⟨next, step, lifetime⟩ := generator
  cases spends <;> rfl

/-- A counting generator gives what a supply of its bytes gives, as long as it lives, and after that
nothing but its reason. -/
theorem readEach_counting {generator : CountingGenerator} {pool : EntropyPool}
    (counts : generator.CountsAs pool) (lengths : List Nat) :
    (ByteSource.readEach (GeneratorSource.mk generator) lengths).1 =
      outlived generator.lifetime (ByteSource.readEach pool lengths).1 := by
  induction lengths generalizing generator pool with
  | nil =>
      obtain ⟨next, step, _ | ⟨reads, reason⟩⟩ := generator <;>
        simp [outlived, ByteSource.readEach]
  | cons length lengths ih =>
      obtain ⟨next, step, lifetime⟩ := generator
      have alive {left : Option Lifetime} (spends : Spends lifetime left) :
          (ByteSource.readEach (GeneratorSource.mk (mk next step lifetime)) (length :: lengths)).1 =
            outlived lifetime (ByteSource.readEach pool (length :: lengths)).1 := by
        rw [readEach_alive spends, ih (counts.advance length left), bytes_eq_piece counts]
        exact (outlived_cons spends _ _).symm
      match lifetime with
      | none => exact alive .endless
      | some ⟨reads + 1, reason⟩ => exact alive (.once reads reason)
      | some ⟨0, reason⟩ =>
          rw [readEach_dead rfl, outlived, List.take_zero, List.nil_append, Nat.sub_zero,
            ByteSource.length_readEach]

/-- A generator that dies between the two seeds makes no key. -/
example : (Key.fromSource Level.level0.params
    (GeneratorSource.mk (CountingGenerator.mk 7 1 (some ⟨1, "exhausted"⟩)))).1 =
      .error (.entropy ⟨"exhausted"⟩) := rfl

end CountingGenerator

end Winternitz
