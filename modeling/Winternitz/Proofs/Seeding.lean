/-
Module: Winternitz.Proofs.Seeding
Purpose: Keys made from a byte source or from given seeds: what is read, what is refused, and that
  both ways lead to the same key.
Main exports: Watched, SeedRead, FillsSeeds, Script.ofSeeds, Key.fromSource_secret_refused,
  Key.fromSource_public_refused, Key.fromSource_seeds, Key.fromSource_filled, Key.MadeOf, KeyRead,
  Key.keyRead_fromSource, Key.SeedsAnswered, Key.made_of_readings
-/
import Winternitz.Proofs.History
import Winternitz.Random.Script

namespace Winternitz

/-!
Nothing is known of a byte source but its answers, which may claim too much or too
little.  A key is made after two good answers and not before: the first one that is
no good ends the attempt, and the source is not asked again.
-/

/-! ### Sources under watch -/

/-- A source together with the lengths of the reads that were made from it. -/
structure Watched (Source : Type) where
  source : Source
  lengths : List Nat

namespace Watched

variable {Source : Type}

def start (source : Source) : Watched Source := ⟨source, []⟩

/-- A watched source answers as it does unwatched. -/
instance [ByteSource Source] : ByteSource (Watched Source) where
  read watched length :=
    let (answer, after) := ByteSource.read watched.source length
    (answer, ⟨after, watched.lengths ++ [length]⟩)

end Watched

section Reading

variable {Source : Type} [ByteSource Source]

/-! ### One seed -/

/-- One read of a seed: what it gives, and the source afterwards. -/
inductive SeedRead (role : SeedRole) (before : Source) : Except Error Seed → Source → Prop where
  /-- The source's own reason is passed on. -/
  | failed {cause : RandomError} {after : Source}
      (read : ByteSource.read before 32 = (.error cause, after)) :
      SeedRead role before (.error (.entropy cause)) after
  /-- Neither fewer nor more bytes than a seed has may be claimed. -/
  | short {reading : Reading 32} {after : Source}
      (read : ByteSource.read before 32 = (.ok reading, after)) (other : reading.count ≠ 32) :
      SeedRead role before (.error (.shortRead role reading.count)) after
  | whole {reading : Reading 32} {after : Source}
      (read : ByteSource.read before 32 = (.ok reading, after)) (count_eq : reading.count = 32) :
      SeedRead role before (.ok ⟨reading.bytes, reading.length_eq⟩) after

/-- A source that fills both buffers that the seeds of a key are read into. -/
def FillsSeeds (source : Source) (secretSeed publicSeed : Seed) : Prop :=
  ∃ between after,
    ByteSource.read source 32 = (.ok (.filled secretSeed.bytes secretSeed.length_eq), between) ∧
    ByteSource.read between 32 = (.ok (.filled publicSeed.bytes publicSeed.length_eq), after)

/-- A source that has the bytes of two seeds to give. -/
def Script.ofSeeds (secretSeed publicSeed : Seed) : Script :=
  ⟨[.written secretSeed.bytes none, .written publicSeed.bytes none]⟩

theorem Script.fillsSeeds (secretSeed publicSeed : Seed) :
    FillsSeeds (ofSeeds secretSeed publicSeed) secretSeed publicSeed := by
  have answer (seed : Seed) (rest : List ScriptedRead) :
      ByteSource.read (Script.mk (.written seed.bytes none :: rest)) 32 =
        (.ok (.filled seed.bytes seed.length_eq), ⟨rest⟩) := by
    have count : (none : Option Nat).getD (min seed.bytes.length 32) = 32 := by
      simp [seed.length_eq, seedSize]
    have bytes : padTo 32 seed.bytes = seed.bytes := by
      simp [padTo, seed.length_eq, seedSize, List.take_of_length_le]
    simp only [ByteSource.read, count, bytes]
    rfl
  exact ⟨_, _, answer secretSeed _, answer publicSeed []⟩

namespace Key

theorem seedRead_readSeed (role : SeedRole) (source : Source) :
    SeedRead role source (readSeed role source).1 (readSeed role source).2 := by
  rcases read : ByteSource.read source seedSize with ⟨answer, after⟩
  cases answer with
  | error cause =>
      simp only [readSeed, read]
      exact .failed read
  | ok reading =>
      by_cases count : reading.count = seedSize
      · simp only [readSeed, read, if_pos count]
        exact .whole read count
      · simp only [readSeed, read, if_neg count]
        exact .short read count

theorem readSeed_filled {source after : Source} {seed : Seed}
    (read : ByteSource.read source 32 = (.ok (.filled seed.bytes seed.length_eq), after))
    (role : SeedRole) : readSeed role source = (.ok seed, after) := by
  simp only [readSeed, seedSize, read]
  rfl

/-- Watching changes nothing, and sees one read. -/
theorem readSeed_watched (role : SeedRole) (watched : Watched Source) :
    readSeed role watched = ((readSeed role watched.source).1,
      ⟨(readSeed role watched.source).2, watched.lengths ++ [32]⟩) := by
  rcases read : ByteSource.read watched.source seedSize with ⟨answer, after⟩
  have seen : ByteSource.read watched seedSize = (answer, ⟨after, watched.lengths ++ [32]⟩) := by
    change (let (answer, after) := ByteSource.read watched.source seedSize
      (answer, (⟨after, watched.lengths ++ [32]⟩ : Watched Source))) = _
    rw [read]
  cases answer with
  | error cause => simp only [readSeed, read, seen]
  | ok reading => by_cases count : reading.count = seedSize <;> simp [readSeed, read, seen, count]

/-! ### Two seeds -/

section Outcomes

variable {source between after : Source} {error : Error} {secretSeed publicSeed : Seed}

/-- Without a secret seed the public one is not asked for. -/
theorem fromSource_secret_refused
    (secretRead : readSeed .secretSeed source = (.error error, after)) (params : Params) :
    fromSource params source = (.error error, after) := by
  simp only [fromSource, secretRead]

theorem fromSource_public_refused
    (secretRead : readSeed .secretSeed source = (.ok secretSeed, between))
    (publicRead : readSeed .publicSeed between = (.error error, after)) (params : Params) :
    fromSource params source = (.error error, after) := by
  simp only [fromSource, secretRead, publicRead]

theorem fromSource_seeds
    (secretRead : readSeed .secretSeed source = (.ok secretSeed, between))
    (publicRead : readSeed .publicSeed between = (.ok publicSeed, after)) (params : Params) :
    fromSource params source = (.ok (ofMaterial ⟨params, secretSeed, publicSeed⟩), after) := by
  simp only [fromSource, secretRead, publicRead]

end Outcomes

/-- Two reads that fill their buffers make a key. -/
theorem fromSource_filled {source : Source} {secretSeed publicSeed : Seed}
    (fills : FillsSeeds source secretSeed publicSeed) (params : Params) :
    (fromSource params source).1 = .ok (ofMaterial ⟨params, secretSeed, publicSeed⟩) := by
  obtain ⟨between, after, secretRead, publicRead⟩ := fills
  rw [fromSource_seeds (readSeed_filled secretRead .secretSeed)
    (readSeed_filled publicRead .publicSeed)]

/-- A key as the two seeds make it: nothing is cached yet, and it can do all that a key is for. -/
structure MadeOf (params : Params) (secretSeed publicSeed : Bytes) (key : Key) : Prop where
  /-- Given as seeds, the same bytes make the very same key. -/
  seeded : fromSeeds params secretSeed publicSeed = .ok key
  positions_empty : key.positions = none
  publicKey_empty : key.publicKey = none
  publicSeed_eq : key.publicSeed = publicSeed
  computes : ∃ publicKey kept, key.computePublicKey.outcome = .ok (publicKey, kept)
  signs : ∀ message, ∃ signature, key.sign message = .ok signature

theorem madeOf_ofMaterial (material : KeyMaterial) :
    MadeOf material.params material.secretSeed.bytes material.publicSeed.bytes
      (ofMaterial material) := by
  have reached : Reached material (ofMaterial material) := .fresh
  obtain ⟨kept, events, computed, -⟩ := reached.computePublicKey
  exact {
    seeded := fromSeeds_seeds material.params material.secretSeed material.publicSeed
    positions_empty := rfl
    publicKey_empty := rfl
    publicSeed_eq := rfl
    computes := ⟨material.publicKey, kept, by rw [computed]⟩
    signs := fun message => ⟨_, reached.sign message⟩ }

end Key

/-- An attempt to make a key from a source: what comes of it, the source afterwards, and the lengths
of the reads. -/
inductive KeyRead (params : Params) (before : Source) :
    Except Error Key → Source → List Nat → Prop where
  | secretRefused {error : Error} {after : Source}
      (secretRead : SeedRead .secretSeed before (.error error) after) :
      KeyRead params before (.error error) after [32]
  | publicRefused {secretSeed : Seed} {between after : Source} {error : Error}
      (secretRead : SeedRead .secretSeed before (.ok secretSeed) between)
      (publicRead : SeedRead .publicSeed between (.error error) after) :
      KeyRead params before (.error error) after [32, 32]
  | made {secretSeed publicSeed : Seed} {between after : Source} {key : Key}
      (secretRead : SeedRead .secretSeed before (.ok secretSeed) between)
      (publicRead : SeedRead .publicSeed between (.ok publicSeed) after)
      (made : Key.MadeOf params secretSeed.bytes publicSeed.bytes key) :
      KeyRead params before (.ok key) after [32, 32]

namespace Key

/-- Every attempt goes this way, watched or not. -/
theorem keyRead_fromSource (params : Params) (source : Source) :
    ∃ outcome after lengths, fromSource params source = (outcome, after) ∧
      fromSource params (Watched.start source) = (outcome, ⟨after, lengths⟩) ∧
      KeyRead params source outcome after lengths := by
  have secretRead := seedRead_readSeed .secretSeed source
  have secretWatched := readSeed_watched .secretSeed (Watched.start source)
  rcases secret : readSeed .secretSeed source with ⟨answer, between⟩
  simp only [Watched.start, secret] at secretRead secretWatched
  cases answer with
  | error error =>
      exact ⟨_, _, _, fromSource_secret_refused secret params,
        fromSource_secret_refused secretWatched params, .secretRefused secretRead⟩
  | ok secretSeed =>
      have publicRead := seedRead_readSeed .publicSeed between
      have publicWatched := readSeed_watched .publicSeed (⟨between, [] ++ [32]⟩ : Watched Source)
      rcases second : readSeed .publicSeed between with ⟨answer, after⟩
      simp only [second] at publicRead publicWatched
      cases answer with
      | error error =>
          exact ⟨_, _, _, fromSource_public_refused secret second params,
            fromSource_public_refused secretWatched publicWatched params,
            .publicRefused secretRead publicRead⟩
      | ok publicSeed =>
          exact ⟨_, _, _, fromSource_seeds secret second params,
            fromSource_seeds secretWatched publicWatched params,
            .made secretRead publicRead (madeOf_ofMaterial ⟨params, secretSeed, publicSeed⟩)⟩

/-- A read that claims more than was asked for is no better than one that claims less. -/
example : (fromSource Level.level0.params
    (Script.mk [.written (List.replicate 32 7) none, .written (List.replicate 40 7) (some 40)])).1 =
      .error (.shortRead .publicSeed 40) := rfl

end Key

end Reading

/-! ### Given seeds -/

namespace Key

/-- What becomes of two byte strings given as seeds. -/
structure SeedsAnswered (params : Params) (secretSeed publicSeed : Bytes) : Prop where
  accepted : (∃ key, fromSeeds params secretSeed publicSeed = .ok key) ↔
    secretSeed.length = 32 ∧ publicSeed.length = 32
  /-- The secret seed is reported, whether or not the public one is any better. -/
  secret_refused : secretSeed.length ≠ 32 → fromSeeds params secretSeed publicSeed =
    .error (.invalidSeedLength .secretSeed secretSeed.length)
  public_refused : secretSeed.length = 32 → publicSeed.length ≠ 32 →
    fromSeeds params secretSeed publicSeed =
      .error (.invalidSeedLength .publicSeed publicSeed.length)

theorem seedOfBytes_refused {bytes : Bytes} (wrong : bytes.length ≠ seedSize) (role : SeedRole) :
    seedOfBytes role bytes = .error (.invalidSeedLength role bytes.length) :=
  dif_neg wrong

theorem seedsAnswered (params : Params) (secretSeed publicSeed : Bytes) :
    SeedsAnswered params secretSeed publicSeed := by
  have secret_refused (wrong : secretSeed.length ≠ 32) :
      fromSeeds params secretSeed publicSeed =
        .error (.invalidSeedLength .secretSeed secretSeed.length) := by
    rw [fromSeeds, seedOfBytes_refused wrong]
    rfl
  have public_refused (right : secretSeed.length = 32) (wrong : publicSeed.length ≠ 32) :
      fromSeeds params secretSeed publicSeed =
        .error (.invalidSeedLength .publicSeed publicSeed.length) := by
    have secret : seedOfBytes .secretSeed secretSeed = .ok ⟨secretSeed, right⟩ := dif_pos right
    rw [fromSeeds, secret, seedOfBytes_refused wrong]
    rfl
  refine ⟨⟨?_, ?_⟩, secret_refused, public_refused⟩
  · rintro ⟨key, made⟩
    by_cases secretRight : secretSeed.length = 32
    · by_cases publicRight : publicSeed.length = 32
      · exact ⟨secretRight, publicRight⟩
      · rw [public_refused secretRight publicRight] at made
        cases made
    · rw [secret_refused secretRight] at made
      cases made
  · rintro ⟨secretRight, publicRight⟩
    exact ⟨_, fromSeeds_seeds params ⟨secretSeed, secretRight⟩ ⟨publicSeed, publicRight⟩⟩

/-- Whatever the source answers: it is read once, and a second time only after a first read that did
not fail and claimed exactly 32 bytes; the first read that fails or claims another number decides
what is reported, and two good ones make the key that the same bytes make as given seeds.  Of these
exactly 32 bytes each are accepted, and the secret seed is looked at first. -/
theorem made_of_readings {Source : Type} [ByteSource Source] (params : Params) (source : Source)
    (secretSeed publicSeed : Bytes) :
    (∃ outcome after lengths, fromSource params source = (outcome, after) ∧
      fromSource params (Watched.start source) = (outcome, ⟨after, lengths⟩) ∧
      KeyRead params source outcome after lengths) ∧
    SeedsAnswered params secretSeed publicSeed :=
  ⟨keyRead_fromSource params source, seedsAnswered params secretSeed publicSeed⟩

end Key

end Winternitz
