/-
Module: Winternitz.Proofs.DigestStream
Purpose: What the reproducible source gives, read after read, and the keys that are made from it.
Main exports: littleEndian, littleEndian_inj, DigestStream.blockAt, DigestStream.bytesFrom,
  DigestStream.take_from, DigestStream.run_blockSteps, DigestStream.take_of_run,
  DigestStream.readEach_from, DigestStream.StreamRead, DigestStream.streamRead,
  DigestStream.reads_of_stream
-/
import Winternitz.Proofs.HasherRuns
import Winternitz.Proofs.Seeding
import Winternitz.Random.DigestStream

namespace Winternitz

/-!
The state between two reads is a counter alone.  A read that takes one block too few
forward would hand out the same bytes twice, and a key whose public seed repeats its
secret seed signs and is checked like any other.
-/

/-! ### Numbers as bytes -/

/-- The lowest eight bytes of a number, the lowest one first. -/
def littleEndian (number : Nat) : Bytes :=
  (List.range 8).map fun place => (number >>> (8 * place)).toUInt8

theorem toLittleEndian_toUInt64 (number : Nat) :
    Word64.toLittleEndian number.toUInt64 = littleEndian number := by
  simp only [Word64.toLittleEndian, Word32.toLittleEndian, littleEndian, List.range, List.range.loop,
    List.map, List.cons_append, List.nil_append, List.cons.injEq, and_true, ← UInt8.toNat_inj]
  simp [Nat.shiftRight_eq_div_pow]
  omega

/-- Numbers that fit into eight bytes are told apart by them. -/
theorem littleEndian_inj {left right : Nat} (leftSmall : left < UInt64.size)
    (rightSmall : right < UInt64.size) (same : littleEndian left = littleEndian right) :
    left = right := by
  unfold UInt64.size at leftSmall rightSmall
  simp only [littleEndian, List.range, List.range.loop, List.map, List.cons.injEq, and_true,
    ← UInt8.toNat_inj] at same
  simp at same
  omega

namespace DigestStream

/-! ### Blocks -/

/-- What is hashed for the block with a number. -/
def blockInput (seed : Bytes) (number : Nat) : Bytes := seed ++ littleEndian number

/-- The block with a number. -/
def blockAt (seed : Bytes) (number : Nat) : Bytes :=
  HashFamily.sha2_256.digest (blockInput seed number)

/-- The number of blocks that a read of a length takes. -/
def blocksFor (length : Nat) : Nat := (length + 31) / 32

/-- The number of blocks that reads of these lengths take. -/
def blocksTaken : List Nat → Nat
  | [] => 0
  | length :: lengths => blocksFor length + blocksTaken lengths

@[simp] theorem blocksTaken_nil : blocksTaken [] = 0 := rfl

@[simp] theorem blocksTaken_cons (length : Nat) (lengths : List Nat) :
    blocksTaken (length :: lengths) = blocksFor length + blocksTaken lengths := rfl

@[simp] theorem blocksTaken_append (lengths others : List Nat) :
    blocksTaken (lengths ++ others) = blocksTaken lengths + blocksTaken others := by
  induction lengths with
  | nil => simp
  | cons length lengths ih => simp [ih, Nat.add_assoc]

/-- The bytes that a read of a length gives when its first block is the one with this number. -/
def bytesFrom (seed : Bytes) (first length : Nat) : Bytes :=
  ((List.range' first (blocksFor length)).map (blockAt seed)).flatten.take length

theorem block_toUInt64 (seed : Bytes) (number : Nat) :
    block seed number.toUInt64 = blockAt seed number := by
  rw [block, toLittleEndian_toUInt64]
  rfl

theorem length_blockAt (seed : Bytes) (number : Nat) : (blockAt seed number).length = 32 :=
  HashFamily.length_digest ..

/-- A read of more bytes than a block has gets all of it. -/
theorem take_blockAt (seed : Bytes) (number : Nat) {length : Nat} (long : 32 ≤ length) :
    (blockAt seed number).take length = blockAt seed number := by
  apply List.take_of_length_le
  rwa [length_blockAt]

theorem blockInput_inj {seed : Bytes} {left right : Nat} (leftSmall : left < UInt64.size)
    (rightSmall : right < UInt64.size) (same : blockInput seed left = blockInput seed right) :
    left = right :=
  littleEndian_inj leftSmall rightSmall (List.append_cancel_left same)

theorem bytesFrom_zero (seed : Bytes) (first : Nat) : bytesFrom seed first 0 = [] := rfl

/-- What a read gives begins with its first block; the rest is what a later read would give. -/
theorem bytesFrom_of_pos (seed : Bytes) (first : Nat) {length : Nat} (positive : 0 < length) :
    bytesFrom seed first length =
      (blockAt seed first).take length ++ bytesFrom seed (first + 1) (length - 32) := by
  have more : blocksFor length = blocksFor (length - 32) + 1 := by
    unfold blocksFor
    omega
  simp only [bytesFrom, more, List.range'_succ, List.map_cons, List.flatten_cons, List.take_append,
    length_blockAt]

/-- Taking bytes uses up the blocks one after the other. -/
theorem take_from (seed : Bytes) (first length : Nat) :
    take ⟨seed, first.toUInt64⟩ length =
      (bytesFrom seed first length, ⟨seed, (first + blocksFor length).toUInt64⟩) := by
  induction length using Nat.strongRecOn generalizing first with
  | ind length ih =>
      rw [take]
      split
      · next empty =>
          subst empty
          rfl
      · next more =>
          have positive : 0 < length := Nat.pos_of_ne_zero more
          have next : first.toUInt64 + 1 = (first + 1).toUInt64 := (UInt64.ofNat_add first 1).symm
          have blocks : first + 1 + blocksFor (length - 32) = first + blocksFor length := by
            unfold blocksFor
            omega
          have rest := ih (length - 32) (by omega) (first + 1)
          rw [blocks] at rest
          simp only [next, hash, HashFamily.size, rest, block_toUInt64,
            bytesFrom_of_pos seed first positive]

theorem length_bytesFrom (seed : Bytes) (first length : Nat) :
    (bytesFrom seed first length).length = length := by
  have taken := length_take ⟨seed, first.toUInt64⟩ length
  rwa [take_from] at taken

/-- A read that ends with a block leaves nothing over, so the next one goes on where it stopped. -/
theorem bytesFrom_add (seed : Bytes) (first count length : Nat) :
    bytesFrom seed first (32 * count + length) =
      bytesFrom seed first (32 * count) ++ bytesFrom seed (first + count) length := by
  induction count generalizing first with
  | zero => simp [bytesFrom_zero]
  | succ count ih =>
      have oneMore (length : Nat) : bytesFrom seed first (32 * (count + 1) + length) =
          blockAt seed first ++ bytesFrom seed (first + 1) (32 * count + length) := by
        have fewer : 32 * (count + 1) + length - 32 = 32 * count + length := by omega
        rw [bytesFrom_of_pos seed first (by omega), take_blockAt seed first (by omega), fewer]
      have blocks : first + (count + 1) = first + 1 + count := by omega
      have whole : bytesFrom seed first (32 * (count + 1)) =
          blockAt seed first ++ bytesFrom seed (first + 1) (32 * count) := oneMore 0
      rw [oneMore, whole, ih (first + 1), blocks, List.append_assoc]

/-- Every byte of a read stands in its block where it would stand if all blocks were one string. -/
theorem getElem?_bytesFrom (seed : Bytes) (first length : Nat) {position : Nat}
    (inside : position < length) :
    (bytesFrom seed first length)[position]? =
      (blockAt seed (first + position / 32))[position % 32]? := by
  induction length using Nat.strongRecOn generalizing first position with
  | ind length ih =>
      have positive : 0 < length := by omega
      have taken : ((blockAt seed first).take length).length = min length 32 := by
        rw [List.length_take, length_blockAt]
      rw [bytesFrom_of_pos seed first positive]
      by_cases early : position < 32
      · rw [List.getElem?_append_left (by omega), List.getElem?_take_of_lt inside]
        simp [Nat.div_eq_of_lt early, Nat.mod_eq_of_lt early]
      · have block : first + 1 + (position - 32) / 32 = first + position / 32 := by omega
        have place : (position - 32) % 32 = position % 32 := by omega
        rw [List.getElem?_append_right (by omega), taken, Nat.min_eq_right (by omega),
          ih (length - 32) (by omega) (first + 1) (by omega), block, place]

/-! ### One hasher for all blocks -/

/-- How a hasher is used for the block with a number. -/
def blockSteps (seed : Bytes) (number : Nat) : List HashStep :=
  [.update seed, .update (Word64.toLittleEndian number.toUInt64), .finalize hash.size]

/-- The steps of one block answer with that block, and leave nothing for the next one. -/
theorem answers_blockSteps (seed : Bytes) (numbers : List Nat) :
    hash.answers [] (numbers.flatMap (blockSteps seed)) =
      numbers.flatMap fun number => [none, none, some (blockAt seed number)] := by
  induction numbers with
  | nil => rfl
  | cons number numbers ih =>
      have given : hash.outputOf (seed ++ Word64.toLittleEndian number.toUInt64) hash.size =
          blockAt seed number := block_toUInt64 seed number
      simpa [blockSteps, HashFamily.answers, HashFamily.answer, HashStep.absorbed, given] using ih

theorem absorbedAfter_blockSteps (seed : Bytes) (numbers : List Nat) :
    absorbedAfter (numbers.flatMap (blockSteps seed)) = [] := by
  induction numbers with
  | nil => rfl
  | cons number numbers ih => exact ih

/-- One hasher, used for one block after the other, gives these blocks and ends as it began. -/
theorem run_blockSteps (seed : Bytes) (numbers : List Nat) :
    (Hasher.fresh hash).run (numbers.flatMap (blockSteps seed)) =
      .ok (numbers.flatMap fun number => [none, none, some (blockAt seed number)],
        Hasher.fresh hash) := by
  have gives : ∀ length, .finalize length ∈ numbers.flatMap (blockSteps seed) →
      hash.Gives length := by
    intro length member
    obtain ⟨number, -, step⟩ := List.mem_flatMap.1 member
    right
    simpa [blockSteps] using step
  rw [Hasher.run_fresh gives, answers_blockSteps, absorbedAfter_blockSteps, fresh_update_nil]

theorem given_blockSteps (seed : Bytes) (numbers : List Nat) :
    (numbers.flatMap fun number => [none, none, some (blockAt seed number)]).filterMap id =
      numbers.map (blockAt seed) := by
  rw [List.filterMap_flatMap, List.map_eq_flatMap]
  rfl

/-- Taking bytes, each block of which is a digest of its own, is a run of one hasher: what it gives
for the blocks of a read, cut to the length of the read. -/
theorem take_of_run (seed : Bytes) (first length : Nat) :
    ∃ outputs, (Hasher.fresh hash).run
        ((List.range' first (blocksFor length)).flatMap (blockSteps seed)) =
          .ok (outputs, Hasher.fresh hash) ∧
      (take ⟨seed, first.toUInt64⟩ length).1 = (outputs.filterMap id).flatten.take length := by
  refine ⟨_, run_blockSteps seed _, ?_⟩
  rw [take_from, given_blockSteps]
  rfl

/-! ### Reads -/

theorem read_from (seed : Bytes) (first length : Nat) :
    ByteSource.read (DigestStream.mk seed first.toUInt64) length =
      (.ok (.filled (bytesFrom seed first length) (length_bytesFrom seed first length)),
        ⟨seed, (first + blocksFor length).toUInt64⟩) := by
  simp only [ByteSource.read, take_from]

/-- What reads of these lengths give when the first block is the one with this number. -/
def answersFrom (seed : Bytes) : Nat → List Nat → List (Except RandomError (Nat × Bytes))
  | _, [] => []
  | first, length :: lengths =>
      .ok (length, bytesFrom seed first length) ::
        answersFrom seed (first + blocksFor length) lengths

/-- Each read begins with the block after the last one of the reads before it. -/
theorem readEach_from (seed : Bytes) (first : Nat) (lengths : List Nat) :
    ByteSource.readEach (DigestStream.mk seed first.toUInt64) lengths =
      (answersFrom seed first lengths, ⟨seed, (first + blocksTaken lengths).toUInt64⟩) := by
  induction lengths generalizing first with
  | nil => rfl
  | cons length lengths ih =>
      have taken : first + blocksFor length + blocksTaken lengths =
          first + blocksTaken (length :: lengths) := by
        simp [Nat.add_assoc]
      simp only [ByteSource.readEach, read_from, ih, taken]
      rfl

theorem length_answersFrom (seed : Bytes) (first : Nat) (lengths : List Nat) :
    (answersFrom seed first lengths).length = lengths.length := by
  induction lengths generalizing first with
  | nil => rfl
  | cons length lengths ih => simp [answersFrom, ih]

theorem getElem?_answersFrom (seed : Bytes) (first : Nat) (earlier : List Nat) (length : Nat)
    (later : List Nat) :
    (answersFrom seed first (earlier ++ length :: later))[earlier.length]? =
      some (.ok (length, bytesFrom seed (first + blocksTaken earlier) length)) := by
  induction earlier generalizing first with
  | nil => rfl
  | cons before earlier ih =>
      simp [answersFrom, ih, Nat.add_assoc]

/-- The numbers of the blocks that a read of a length is made of, after reads of `earlier`. -/
def blocksOf (earlier : List Nat) (length : Nat) : List Nat :=
  List.range' (blocksTaken earlier) (blocksFor length)

/-- What reads from a fresh stream give, by their lengths alone. -/
structure StreamRead (seed : Bytes) (lengths : List Nat)
    (answers : List (Except RandomError (Nat × Bytes))) (after : DigestStream) : Prop where
  length_eq : answers.length = lengths.length
  /-- Every read succeeds, claims what it gives and fills its buffer with the first bytes of its
  blocks; what is left over of the last one is dropped. -/
  answered : ∀ earlier length later, lengths = earlier ++ length :: later →
    ∃ bytes : Bytes, answers[earlier.length]? = some (.ok (length, bytes)) ∧
      bytes.length = length ∧
      bytes = ((blocksOf earlier length).map (blockAt seed)).flatten.take length ∧
      ∀ position, position < length →
        bytes[position]? = (blockAt seed (blocksTaken earlier + position / 32))[position % 32]?
  seed_eq : after.seed = seed
  counter_eq : after.counter.toNat = blocksTaken lengths
  /-- No two blocks are hashed from the same bytes. -/
  inputs_nodup : ((List.range (blocksTaken lengths)).map (blockInput seed)).Nodup
  /-- What one read uses a later one does not. -/
  apart : ∀ earlier length between other later,
    lengths = earlier ++ length :: (between ++ other :: later) →
    ∀ number ∈ blocksOf earlier length, ∀ next ∈ blocksOf (earlier ++ length :: between) other,
      blockInput seed number ≠ blockInput seed next

theorem lt_of_mem_blocksOf {earlier : List Nat} {length number : Nat} {lengths later : List Nat}
    (split : lengths = earlier ++ length :: later) (member : number ∈ blocksOf earlier length) :
    number < blocksTaken lengths := by
  subst split
  simp [blocksOf, List.mem_range'_1] at member ⊢
  omega

theorem streamRead (seed : Bytes) {lengths : List Nat} (few : blocksTaken lengths < UInt64.size) :
    StreamRead seed lengths (answersFrom seed 0 lengths)
      ⟨seed, (blocksTaken lengths).toUInt64⟩ where
  length_eq := length_answersFrom seed 0 lengths
  answered := by
    rintro earlier length later rfl
    have given := getElem?_answersFrom seed 0 earlier length later
    rw [Nat.zero_add] at given
    exact ⟨_, given, length_bytesFrom .., rfl, fun _ inside => getElem?_bytesFrom _ _ _ inside⟩
  seed_eq := rfl
  counter_eq := UInt64.toNat_ofNat_of_lt few
  inputs_nodup := by
    rw [List.nodup_iff_pairwise_ne, List.pairwise_map]
    refine List.nodup_range.imp_of_mem ?_
    intro left right leftMember rightMember different same
    rw [List.mem_range] at leftMember rightMember
    exact different (blockInput_inj (by omega) (by omega) same)
  apart := by
    rintro earlier length between other later split number used next usedLater same
    have small := lt_of_mem_blocksOf split used
    have nextSmall : next < blocksTaken lengths :=
      lt_of_mem_blocksOf (by simpa using split) usedLater
    have equal := blockInput_inj (by omega) (by omega) same
    simp [blocksOf, List.mem_range'_1] at used usedLater
    omega

/-- A read of whole blocks and a second one give what one read of both lengths gives. -/
theorem readEach_joined (stream : DigestStream) (first second : Nat) (whole : 32 ∣ first) :
    ∃ bytes others after,
      ByteSource.readEach stream [first, second] =
        ([.ok (first, bytes), .ok (second, others)], after) ∧
      ByteSource.readEach stream [first + second] =
        ([.ok (first + second, bytes ++ others)], after) := by
  obtain ⟨count, rfl⟩ := whole
  obtain ⟨seed, counter⟩ := stream
  obtain ⟨number, rfl⟩ : ∃ number : Nat, counter = number.toUInt64 :=
    ⟨counter.toNat, UInt64.ofNat_toNat.symm⟩
  have blocks : blocksFor (32 * count) = count := by
    unfold blocksFor
    omega
  have taken : blocksTaken [32 * count, second] = blocksTaken [32 * count + second] := by
    simp [blocksFor]
    omega
  have joined := readEach_from seed number [32 * count + second]
  have apart := readEach_from seed number [32 * count, second]
  rw [← taken] at joined
  simp only [answersFrom, blocks, bytesFrom_add] at joined apart
  exact ⟨_, _, _, apart, joined⟩

/-! ### Keys -/

theorem bytesFrom_block (seed : Bytes) (number : Nat) :
    bytesFrom seed number 32 = blockAt seed number := by
  rw [bytesFrom_of_pos seed number (by decide), Nat.sub_self, bytesFrom_zero, List.append_nil,
    take_blockAt seed number (Nat.le_refl 32)]

/-- A seed is one block. -/
theorem readSeed_from (role : SeedRole) (seed : Bytes) (number : Nat) :
    Key.readSeed role (DigestStream.mk seed number.toUInt64) =
      (.ok ⟨blockAt seed number, length_blockAt ..⟩, ⟨seed, (number + 1).toUInt64⟩) := by
  have read := read_from seed number 32
  simp only [bytesFrom_block] at read
  exact Key.readSeed_filled read role

/-- A key from a fresh stream has the first block as its secret seed and the next one as its public
seed. -/
theorem fromSource_start (params : Params) (seed : Bytes) :
    ∃ key, Key.fromSource params (start seed) = (.ok key, ⟨seed, 2⟩) ∧
      Key.fromSeeds params (blockAt seed 0) (blockAt seed 1) = .ok key := by
  have made := Key.fromSource_seeds (readSeed_from .secretSeed seed 0)
    (readSeed_from .publicSeed seed 1) params
  exact ⟨_, made, Key.fromSeeds_seeds params ⟨_, length_blockAt seed 0⟩ ⟨_, length_blockAt seed 1⟩⟩

/-- Reads of any lengths from a fresh stream, as long as the block numbers fit into the counter: every
read is answered from the blocks that follow those of the reads before it, so that none is used
twice; whole blocks can be read apart or together; a key takes the first two blocks; and one hasher
that is used for all blocks gives what a fresh one gives for each. -/
theorem reads_of_stream (seed : Bytes) (lengths : List Nat)
    (few : blocksTaken lengths < UInt64.size) :
    (∃ answers after, ByteSource.readEach (start seed) lengths = (answers, after) ∧
      StreamRead seed lengths answers after) ∧
    (∀ (stream : DigestStream) (first second : Nat), 32 ∣ first → ∃ bytes others after,
      ByteSource.readEach stream [first, second] =
        ([.ok (first, bytes), .ok (second, others)], after) ∧
      ByteSource.readEach stream [first + second] =
        ([.ok (first + second, bytes ++ others)], after)) ∧
    (∀ params, ∃ key, Key.fromSource params (start seed) = (.ok key, ⟨seed, 2⟩) ∧
      Key.fromSeeds params (blockAt seed 0) (blockAt seed 1) = .ok key) ∧
    ∀ numbers : List Nat, (Hasher.fresh hash).run (numbers.flatMap (blockSteps seed)) =
      .ok (numbers.flatMap fun number => [none, none, some (blockAt seed number)],
        Hasher.fresh hash) := by
  refine ⟨⟨_, _, ?_, streamRead seed few⟩, readEach_joined,
    fun params => fromSource_start params seed, run_blockSteps seed⟩
  have ran := readEach_from seed 0 lengths
  rwa [Nat.zero_add] at ran

/-- Four reads, the second of them empty, take four blocks. -/
theorem reads_of_stream_four :
    blocksTaken [5, 0, 40, 32] = 4 ∧ blocksTaken [5, 0, 40, 32] < UInt64.size ∧
    ∃ answers after, ByteSource.readEach (start [1, 2]) [5, 0, 40, 32] = (answers, after) ∧
      StreamRead [1, 2] [5, 0, 40, 32] answers after :=
  ⟨by decide, by decide, (reads_of_stream [1, 2] [5, 0, 40, 32] (by decide)).1⟩

end DigestStream

end Winternitz
