/-
Module: Winternitz.Proofs.SharedMoves
Purpose: The steps that a thread can take with a shared key, and what it waits for.
Main exports: Answer.Agrees, Served, Phase.Fits, CellsHold, Move, Thread.Waits,
  SharedKey.Stepped, SharedKey.stepped
-/
import Winternitz.Proofs.Caches

namespace Winternitz

/-!
A step either answers a request or moves its thread on to the next phase of one.
All it changes besides is a cell, and only in three ways: it claims an empty cell,
it publishes in a cell that its thread has claimed, or it publishes the public
key, which is there already or not, on the way to the positions.
-/

/-! ### Answers -/

/-- The answer to a request is what a fresh key answers its only user.  Whether a value is cached
depends on the other threads, but not what it is. -/
inductive Answer.Agrees (fresh : Key) : Request → Answer → Prop where
  | computed {publicKey : PublicKey} {kept : Key}
      (own : fresh.computePublicKey.outcome = .ok (publicKey, kept)) :
      Agrees fresh .computePublicKey (.computed publicKey)
  | generated : Agrees fresh .generate .generated
  | signed {message signature : Bytes} (own : fresh.sign message = .ok signature) :
      Agrees fresh (.sign message) (.signed signature)
  | notCached : Agrees fresh .publicKey (.cached none)
  | cached {publicKey : PublicKey} {kept : Key}
      (own : fresh.computePublicKey.outcome = .ok (publicKey, kept)) :
      Agrees fresh .publicKey (.cached (some publicKey))
  | whetherGenerated (answer : Bool) : Agrees fresh .isGenerated (.whetherGenerated answer)

/-- Answers to all requests up to those that are still open, in order. -/
inductive Served (fresh : Key) (asked : List Request) : List Answer → List Request → Prop where
  | start : Served fresh asked [] asked
  | next {answers : List Answer} {request : Request} {rest : List Request} {answer : Answer}
      (before : Served fresh asked answers (request :: rest))
      (agrees : Answer.Agrees fresh request answer) :
      Served fresh asked (answers ++ [answer]) rest

namespace Answer.Agrees

variable (material : KeyMaterial)

theorem own_publicKey : ∃ kept, (Key.ofMaterial material).computePublicKey.outcome =
    .ok (material.publicKey, kept) := by
  have unused : Key.Reached material (Key.ofMaterial material) := .fresh
  obtain ⟨kept, events, computed, -⟩ := unused.computePublicKey
  exact ⟨kept, by rw [computed]⟩

theorem own_computed :
    Agrees (Key.ofMaterial material) .computePublicKey (.computed material.publicKey) := by
  obtain ⟨kept, own⟩ := own_publicKey material
  exact .computed own

theorem own_cached {cache : Option PublicKey}
    (held : ∀ key, cache = some key → key = material.publicKey) :
    Agrees (Key.ofMaterial material) .publicKey (.cached cache) := by
  cases cache with
  | none => exact .notCached
  | some key =>
      obtain ⟨kept, own⟩ := own_publicKey material
      rw [held key rfl]
      exact .cached own

theorem own_signed (message : Bytes) :
    Agrees (Key.ofMaterial material) (.sign message) (.signed (material.signatureOf message)) :=
  .signed (Key.Reached.fresh.sign message)

end Answer.Agrees

/-! ### Phases -/

namespace Phase

variable {params : Params}

/-- A thread in this phase has claimed the public key's cell. -/
def claimsPublicKey : Phase params → Bool
  | .derived _ => true
  | _ => false

/-- A thread in this phase has claimed the positions' cell. -/
def claimsPositions : Phase params → Bool
  | .recorded .. | .settled _ => true
  | _ => false

/-- A thread in this phase has claimed no cell. -/
def Idle (phase : Phase params) : Prop :=
  phase.claimsPublicKey = false ∧ phase.claimsPositions = false

theorem idle_ready : (ready : Phase params).Idle := ⟨rfl, rfl⟩

theorem idle_missed : (missed : Phase params).Idle := ⟨rfl, rfl⟩

/-- The phases of a thread with these open requests.  What the thread has computed is what the
seeds determine, and the public key is published before the positions. -/
inductive Fits (material : KeyMaterial) (published : Option PublicKey) :
    List Request → Phase material.params → Prop where
  | ready {requests : List Request} : Fits material published requests .ready
  | missed {rest : List Request} : Fits material published (.computePublicKey :: rest) .missed
  | derived {rest : List Request} :
      Fits material published (.computePublicKey :: rest) (.derived material.publicKey)
  | recorded {rest : List Request} {table : material.params.Positions}
      (complete : material.Recorded table) :
      Fits material published (.generate :: rest) (.recorded table material.publicKey)
  | settled {rest : List Request} {table : material.params.Positions}
      (complete : material.Recorded table) (settled : published = some material.publicKey) :
      Fits material published (.generate :: rest) (.settled table)

/-- What is published stays published, so a thread's phase goes on fitting. -/
theorem Fits.mono {material : KeyMaterial} {published published' : Option PublicKey}
    {requests : List Request} {phase : Phase material.params}
    (fits : phase.Fits material published requests) (kept : Keeps published published') :
    phase.Fits material published' requests := by
  cases fits with
  | ready => exact .ready
  | missed => exact .missed
  | derived => exact .derived
  | recorded complete => exact .recorded complete
  | settled complete settled => exact .settled complete (kept _ settled)

end Phase

/-! ### Moves -/

/-- What the cells show: values that the seeds determine, and the positions never without the
public key. -/
structure CellsHold (material : KeyMaterial) (positions : Cell material.params.Positions)
    (publicKey : Cell PublicKey) : Prop where
  publicKey_held : ∀ key, publicKey.get? = some key → key = material.publicKey
  positions_held : ∀ table, positions.get? = some table →
    material.Recorded table ∧ publicKey.get? = some material.publicKey

/-- What one step of a thread does to the cells and to the thread, and what it reports. -/
inductive Move (material : KeyMaterial) (number : Nat) (thread : Thread material.params) :
    Cell material.params.Positions → Cell PublicKey → Cell material.params.Positions →
      Cell PublicKey → Thread material.params → List Event → Prop where
  | answer {positions : Cell material.params.Positions} {publicKey : Cell PublicKey}
      {request : Request} {rest : List Request} {answer : Answer} {events : List Event}
      (asks : thread.requests = request :: rest) (idle : thread.phase.Idle)
      (agrees : Answer.Agrees (Key.ofMaterial material) request answer)
      (quiet : .generatingLadders material.params ∉ events) :
      Move material number thread positions publicKey positions publicKey
        (thread.answered answer) events
  | miss {positions : Cell material.params.Positions} {publicKey : Cell PublicKey}
      {rest : List Request} (asks : thread.requests = .computePublicKey :: rest)
      (phase : thread.phase = .ready) :
      Move material number thread positions publicKey positions publicKey
        (thread.inPhase .missed) []
  | claimPublicKey {positions : Cell material.params.Positions} {rest : List Request}
      (asks : thread.requests = .computePublicKey :: rest) (phase : thread.phase = .missed) :
      Move material number thread positions .empty positions (.claimed number)
        (thread.inPhase (.derived material.publicKey)) []
  | publishPublicKey {positions : Cell material.params.Positions} {rest : List Request}
      (asks : thread.requests = .computePublicKey :: rest)
      (phase : thread.phase = .derived material.publicKey) :
      Move material number thread positions (.claimed number) positions
        (.filled material.publicKey) (thread.answered (.computed material.publicKey)) []
  | claimPositions {publicKey : Cell PublicKey} {rest : List Request}
      {table : material.params.Positions} (asks : thread.requests = .generate :: rest)
      (phase : thread.phase = .ready) (complete : material.Recorded table) :
      Move material number thread .empty publicKey (.claimed number) publicKey
        (thread.inPhase (.recorded table material.publicKey)) [.generatingLadders material.params]
  | settle {positions : Cell material.params.Positions} {publicKey : Cell PublicKey}
      {rest : List Request} {table : material.params.Positions}
      (asks : thread.requests = .generate :: rest)
      (phase : thread.phase = .recorded table material.publicKey)
      (complete : material.Recorded table)
      (unclaimed : publicKey = .empty ∨ publicKey = .filled material.publicKey) :
      Move material number thread positions publicKey positions (.filled material.publicKey)
        (thread.inPhase (.settled table)) []
  | publishPositions {publicKey : Cell PublicKey} {rest : List Request}
      {table : material.params.Positions} (asks : thread.requests = .generate :: rest)
      (phase : thread.phase = .settled table) (complete : material.Recorded table)
      (settled : publicKey.get? = some material.publicKey) :
      Move material number thread (.claimed number) publicKey (.filled table) publicKey
        (thread.answered .generated) []

/-- A thread waits for a cell that some thread has claimed.  It has not claimed the public key's
cell itself, and before it waits for the positions it has claimed neither. -/
inductive Thread.Waits {params : Params} (positions : Cell params.Positions)
    (publicKey : Cell PublicKey) (thread : Thread params) : Prop where
  | publicKey {owner : Nat} (claimed : publicKey = .claimed owner)
      (free : thread.phase.claimsPublicKey = false)
  | positions {owner : Nat} (claimed : positions = .claimed owner) (idle : thread.phase.Idle)

/-! ### Every step is a move -/

namespace SharedKey

variable {shared : SharedKey} {number : Nat} {thread : Thread shared.material.params}

/-- What a step of a thread gives: a state with all other threads as they were, or nothing, because
the thread has finished or has to wait. -/
inductive Stepped (shared : SharedKey) (number : Nat) (thread : Thread shared.material.params) :
    Except Fault (Option SharedKey) → Prop where
  | moved {positions : Cell shared.material.params.Positions} {publicKey : Cell PublicKey}
      {after : Thread shared.material.params} {more : List Event}
      (move : Move shared.material number thread shared.positions shared.publicKey positions
        publicKey after more) :
      Stepped shared number thread
        (.ok (some ⟨shared.material, positions, publicKey, shared.threads.set number after,
          shared.events ++ more⟩))
  | finished (finished : thread.finished = true) : Stepped shared number thread (.ok none)
  | waiting (waits : thread.Waits shared.positions shared.publicKey) :
      Stepped shared number thread (.ok none)

theorem Stepped.silently {positions : Cell shared.material.params.Positions}
    {publicKey : Cell PublicKey} {after : Thread shared.material.params}
    (move : Move shared.material number thread shared.positions shared.publicKey positions
      publicKey after []) :
    Stepped shared number thread
      (.ok (some ⟨shared.material, positions, publicKey, shared.threads.set number after,
        shared.events⟩)) := by
  have moved := Stepped.moved move
  rwa [List.append_nil] at moved

variable {rest : List Request}
  (cells : CellsHold shared.material shared.positions shared.publicKey)
include cells

/-- A thread that has claimed nothing answers its request, goes on with it or waits. -/
theorem stepped_ready {request : Request} (asks : thread.requests = request :: rest)
    (phase : thread.phase = .ready) :
    Stepped shared number thread (shared.advance number thread request .ready) := by
  have idle : thread.phase.Idle := by
    rw [phase]
    exact Phase.idle_ready
  cases request with
  | computePublicKey =>
      simp only [advance]
      cases cell : shared.publicKey.get? with
      | none => exact .silently (.miss asks phase)
      | some key =>
          rw [cells.publicKey_held key cell]
          exact .moved (.answer asks idle (Answer.Agrees.own_computed _) (by simp))
  | generate =>
      simp only [advance]
      cases cell : shared.positions with
      | empty =>
          obtain ⟨table, recording, complete⟩ := shared.material.record_spec
          change Stepped shared number thread (shared.material.record >>= _)
          rw [Fault.bind_of_ok _ recording]
          apply Stepped.moved
          rw [cell]
          exact .claimPositions asks phase complete
      | claimed owner => exact .waiting (.positions cell idle)
      | filled table => exact .silently (.answer asks idle .generated List.not_mem_nil)
  | sign message =>
      have answered : Stepped shared number thread
          (.ok (some (shared.withThread number
            (thread.answered (.signed (shared.material.signatureOf message)))))) :=
        .silently (.answer asks idle (Answer.Agrees.own_signed _ message) List.not_mem_nil)
      rw [advance]
      cases cell : shared.positions.get? with
      | none =>
          change Stepped shared number thread (shared.material.signByWalking message >>= _)
          rwa [Fault.bind_of_ok _ (shared.material.signByWalking_eq message)]
      | some table =>
          have complete := (cells.positions_held table cell).1
          change Stepped shared number thread (shared.material.signByTable table message >>= _)
          rwa [Fault.bind_of_ok _ (KeyMaterial.signByTable_eq complete message)]
  | publicKey =>
      have agrees := Answer.Agrees.own_cached shared.material cells.publicKey_held
      exact .silently (.answer asks idle agrees List.not_mem_nil)
  | isGenerated => exact .silently (.answer asks idle (.whetherGenerated _) List.not_mem_nil)

/-- After a miss the public key's cell is claimed, unless another thread was faster. -/
theorem stepped_missed (asks : thread.requests = .computePublicKey :: rest)
    (phase : thread.phase = .missed) :
    Stepped shared number thread (shared.advance number thread .computePublicKey .missed) := by
  have idle : thread.phase.Idle := by
    rw [phase]
    exact Phase.idle_missed
  rw [advance]
  cases cell : shared.publicKey with
  | empty =>
      change Stepped shared number thread (shared.material.derivePublicKey >>= _)
      rw [Fault.bind_of_ok _ shared.material.derivePublicKey_eq]
      apply Stepped.silently
      rw [cell]
      exact .claimPublicKey asks phase
  | claimed owner => exact .waiting (.publicKey cell idle.1)
  | filled key =>
      have own : key = shared.material.publicKey := by
        apply cells.publicKey_held
        rw [cell]
        rfl
      rw [own]
      exact .silently (.answer asks idle (Answer.Agrees.own_computed _) List.not_mem_nil)

/-- With the positions computed the public key is published first, unless it is there. -/
theorem stepped_recorded {table : shared.material.params.Positions}
    (complete : shared.material.Recorded table) (asks : thread.requests = .generate :: rest)
    (phase : thread.phase = .recorded table shared.material.publicKey) :
    Stepped shared number thread
      (shared.advance number thread .generate (.recorded table shared.material.publicKey)) := by
  rw [advance]
  cases cell : shared.publicKey with
  | empty =>
      apply Stepped.silently
      rw [cell]
      exact .settle asks phase complete (Or.inl rfl)
  | claimed owner =>
      apply Stepped.waiting
      apply Thread.Waits.publicKey cell
      rw [phase]
      rfl
  | filled key =>
      have own : shared.publicKey = .filled shared.material.publicKey := by
        rw [cell, cells.publicKey_held key (by rw [cell]; rfl)]
      have settled : Move shared.material number thread shared.positions shared.publicKey
          shared.positions (.filled shared.material.publicKey) (thread.inPhase (.settled table)) [] :=
        .settle asks phase complete (Or.inr own)
      rw [← own] at settled
      exact .silently settled

omit cells in
theorem step_of_request {request : Request} (found : shared.threads[number]? = some thread)
    (asks : thread.requests = request :: rest) :
    shared.step number = shared.advance number thread request thread.phase := by
  simp only [step, found, asks]

/-- Every step of a thread in a phase that fits is a move, and a thread without a step has finished
or waits. -/
theorem stepped (found : shared.threads[number]? = some thread)
    (fits : thread.phase.Fits shared.material shared.publicKey.get? thread.requests)
    (owns_publicKey : thread.phase.claimsPublicKey = true → shared.publicKey = .claimed number)
    (owns_positions : thread.phase.claimsPositions = true → shared.positions = .claimed number) :
    Stepped shared number thread (shared.step number) := by
  cases asks : thread.requests with
  | nil =>
      have idle : shared.step number = .ok none := by
        simp only [step, found, asks]
        rfl
      rw [idle]
      apply Stepped.finished
      rw [Thread.finished, asks]
      rfl
  | cons request rest =>
      rw [step_of_request found asks]
      -- The phases that fit determine the request, but for the one in which nothing is done yet.
      rw [asks] at fits
      generalize phase : thread.phase = current at fits owns_publicKey owns_positions
      cases fits with
      | ready => exact stepped_ready cells asks phase
      | missed => exact stepped_missed cells asks phase
      | derived =>
          have owned := owns_publicKey rfl
          apply Stepped.silently
          rw [owned]
          exact .publishPublicKey asks phase
      | recorded complete => exact stepped_recorded cells complete asks phase
      | settled complete settled =>
          have owned := owns_positions rfl
          apply Stepped.silently
          rw [owned]
          exact .publishPositions asks phase complete settled

end SharedKey

end Winternitz
