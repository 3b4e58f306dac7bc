/-
Module: Winternitz.Proofs.SharedRuns
Purpose: Threads that share a key get all their answers after three steps per request at the most.
Main exports: Thread.stepsLeft, SharedKey.stepsLeft, Move.stepsLeft_lt, Invariant.run,
  Key.shareAmong_served
-/
import Winternitz.Proofs.SharedKey

namespace Winternitz

/-! ### The steps that are left -/

/-- How many steps a thread has taken for its open request. -/
def Phase.stepsDone {params : Params} : Phase params → Nat
  | .ready => 0
  | .missed => 1
  | .derived _ => 2
  | .recorded .. => 1
  | .settled _ => 2

theorem Phase.stepsDone_le {params : Params} (phase : Phase params) : phase.stepsDone ≤ 2 := by
  cases phase <;> simp [Phase.stepsDone]

namespace Thread

variable {params : Params}

/-- The most steps that a thread can take until it has finished. -/
def stepsLeft (thread : Thread params) : Nat :=
  SharedKey.stepsPerRequest * thread.requests.length - thread.phase.stepsDone

section OneThread

variable {thread : Thread params} {request : Request} {rest : List Request}

theorem stepsLeft_answered (asks : thread.requests = request :: rest) (answer : Answer) :
    (thread.answered answer).stepsLeft < thread.stepsLeft := by
  have done := thread.phase.stepsDone_le
  have after : (thread.answered answer).stepsLeft = 3 * rest.length := by
    simp only [stepsLeft, answered, asks, List.tail_cons]
    rfl
  have before : thread.stepsLeft = 3 * (rest.length + 1) - thread.phase.stepsDone := by
    rw [stepsLeft, asks]
    rfl
  omega

theorem stepsLeft_inPhase (asks : thread.requests = request :: rest) {phase : Phase params}
    (further : thread.phase.stepsDone < phase.stepsDone) :
    (thread.inPhase phase).stepsLeft < thread.stepsLeft := by
  have done := phase.stepsDone_le
  simp only [stepsLeft, inPhase, asks, List.length_cons, SharedKey.stepsPerRequest]
  omega

end OneThread

/-- The most steps that these threads can take together. -/
def allStepsLeft (threads : List (Thread params)) : Nat :=
  threads.foldr (fun thread sum => thread.stepsLeft + sum) 0

theorem allStepsLeft_set {threads : List (Thread params)} {number : Nat} {before after : Thread params}
    (found : threads[number]? = some before) (less : after.stepsLeft < before.stepsLeft) :
    allStepsLeft (threads.set number after) < allStepsLeft threads := by
  induction threads generalizing number with
  | nil => simp at found
  | cons thread threads ih =>
      cases number with
      | zero =>
          cases found
          exact Nat.add_lt_add_right less _
      | succ number => exact Nat.add_lt_add_left (ih found) _

end Thread

/-- Every move takes its thread nearer to the end. -/
theorem Move.stepsLeft_lt {material : KeyMaterial} {number : Nat}
    {thread after : Thread material.params} {positions positions' : Cell material.params.Positions}
    {publicKey publicKey' : Cell PublicKey} {more : List Event}
    (move : Move material number thread positions publicKey positions' publicKey' after more) :
    after.stepsLeft < thread.stepsLeft := by
  cases move with
  | answer asks => exact Thread.stepsLeft_answered asks _
  | miss asks phase => exact Thread.stepsLeft_inPhase asks (by simp [phase, Phase.stepsDone])
  | claimPublicKey asks phase =>
      exact Thread.stepsLeft_inPhase asks (by simp [phase, Phase.stepsDone])
  | publishPublicKey asks => exact Thread.stepsLeft_answered asks _
  | claimPositions asks phase =>
      exact Thread.stepsLeft_inPhase asks (by simp [phase, Phase.stepsDone])
  | settle asks phase => exact Thread.stepsLeft_inPhase asks (by simp [phase, Phase.stepsDone])
  | publishPositions asks => exact Thread.stepsLeft_answered asks _

/-! ### The run that takes the first step there is -/

namespace SharedKey

/-- The most steps that can be taken until all threads have finished. -/
def stepsLeft (shared : SharedKey) : Nat := Thread.allStepsLeft shared.threads

/-- What a later state reaches the earlier one reaches. -/
theorem Reachable.of_step {shared next last : SharedKey} {number : Nat}
    (stepped : shared.step number = .ok (some next)) (reached : next.Reachable last) :
    shared.Reachable last := by
  induction reached with
  | start => exact .next .start stepped
  | next before stepped ih => exact .next ih stepped

/-- The first step there is, from a number on, is found. -/
theorem firstStep_spec (shared : SharedKey) (total : ∀ number, ∃ after, shared.step number = .ok after)
    (count number : Nat) :
    (∃ mover next, shared.step mover = .ok (some next) ∧
      shared.firstStep count number = .ok (some next)) ∨
    (shared.firstStep count number = .ok none ∧
      ∀ other, number ≤ other → other < number + count → shared.step other = .ok none) := by
  induction count generalizing number with
  | zero =>
      refine Or.inr ⟨rfl, ?_⟩
      intro other above below
      exact absurd below (Nat.not_lt.2 above)
  | succ count ih =>
      obtain ⟨result, stepped⟩ := total number
      rw [firstStep, Fault.bind_of_ok _ stepped]
      cases result with
      | some next => exact Or.inl ⟨number, next, stepped, rfl⟩
      | none =>
          rcases ih (number + 1) with found | ⟨idle, others⟩
          · exact Or.inl found
          · refine Or.inr ⟨idle, ?_⟩
            intro other above below
            rcases Nat.eq_or_lt_of_le above with rfl | above
            · exact stepped
            · exact others other above (by omega)

namespace Invariant

variable {requests : List (List Request)} {begun : Nat} {shared : SharedKey}

theorem stepsLeft_lt (invariant : shared.Invariant requests begun) {number : Nat}
    {next : SharedKey} (stepped : shared.step number = .ok (some next)) :
    next.stepsLeft < shared.stepsLeft := by
  obtain ⟨thread, _, _, after, more, found, move, rfl⟩ := invariant.exists_move stepped
  exact Thread.allStepsLeft_set found move.stepsLeft_lt

/-- Unless all threads have finished, a step is found. -/
theorem firstStep (invariant : shared.Invariant requests begun) :
    (∃ number next, shared.step number = .ok (some next) ∧
      shared.firstStep shared.threads.length 0 = .ok (some next)) ∨
    (shared.firstStep shared.threads.length 0 = .ok none ∧
      ∀ thread ∈ shared.threads, thread.finished = true) := by
  rcases shared.firstStep_spec invariant.step_ok shared.threads.length 0 with found | ⟨none, idle⟩
  · exact Or.inl found
  · refine Or.inr ⟨none, ?_⟩
    intro thread member
    cases finished : thread.finished with
    | true => rfl
    | false =>
        obtain ⟨number, next, stepped⟩ := invariant.exists_step ⟨thread, member, finished⟩
        obtain ⟨mover, _, _, _, _, found, -⟩ := invariant.exists_move stepped
        have inside : number < shared.threads.length := (List.getElem?_eq_some_iff.1 found).1
        rw [idle number (Nat.zero_le _) (by rwa [Nat.zero_add])] at stepped
        cases stepped

/-- With as many steps as are left, a run goes on until all threads have finished. -/
theorem run (invariant : shared.Invariant requests begun) {steps : Nat}
    (enough : shared.stepsLeft ≤ steps) :
    ∃ last, shared.run steps = .ok last ∧ shared.Reachable last ∧
      ∀ thread ∈ last.threads, thread.finished = true := by
  induction steps generalizing shared with
  | zero =>
      rcases invariant.firstStep with ⟨number, next, stepped, -⟩ | ⟨-, finished⟩
      · exact absurd (invariant.stepsLeft_lt stepped) (by omega)
      · exact ⟨shared, rfl, .start, finished⟩
  | succ steps ih =>
      rcases invariant.firstStep with ⟨number, next, stepped, found⟩ | ⟨found, finished⟩
      · have fewer := invariant.stepsLeft_lt stepped
        obtain ⟨last, ran, reached, finished⟩ := ih (invariant.step stepped).1 (by omega)
        refine ⟨last, ?_, reached.of_step stepped, finished⟩
        rw [SharedKey.run, Fault.bind_of_ok _ found]
        exact ran
      · refine ⟨shared, ?_, .start, finished⟩
        rw [SharedKey.run, Fault.bind_of_ok _ found]
        rfl

end Invariant

theorem stepsLeft_le (shared : SharedKey) :
    shared.stepsLeft ≤ stepsPerRequest * shared.openRequests := by
  rw [stepsLeft, openRequests]
  induction shared.threads with
  | nil => exact Nat.zero_le _
  | cons thread threads ih =>
      have one : thread.stepsLeft ≤ stepsPerRequest * thread.requests.length := Nat.sub_le ..
      rw [List.foldr_cons, Nat.mul_add]
      exact Nat.add_le_add one ih

end SharedKey

/-! ### All answers -/

/-- What the cells hold after a schedule is a state that single calls can lead to as well. -/
theorem CellsHold.reached {material : KeyMaterial} {positions : Cell material.params.Positions}
    {publicKey : Cell PublicKey} (cells : CellsHold material positions publicKey) :
    Key.Reached material ⟨material, positions.get?, publicKey.get?⟩ := by
  cases table : positions.get? with
  | some recorded =>
      obtain ⟨complete, published⟩ := cells.positions_held recorded table
      rw [published]
      exact .recorded complete
  | none =>
      cases cached : publicKey.get? with
      | none => exact .fresh
      | some key =>
          rw [cells.publicKey_held key cached]
          exact .derived

/-- Threads that share a used key and take the first step there is get all their answers, each one
that of a fresh key, and leave the key in one of the states that a single user knows. -/
theorem Key.shareAmong_served (material : KeyMaterial) (calls : List Call)
    (requests : List (List Request)) :
    ∃ (fresh used : Key) (answers : List (List Answer)) (after : Key) (events : List Event),
      Key.fromSeeds material.params material.secretSeed.bytes material.publicSeed.bytes =
        .ok fresh ∧
      fresh.after calls = .ok used ∧
      used.shareAmong requests = ⟨.ok (answers, after), events⟩ ∧
      answers.length = requests.length ∧
      (∀ (number : Nat) (given : List Answer) (asked : List Request),
        answers[number]? = some given → requests[number]? = some asked →
        Served fresh asked given []) ∧
      Reached material after := by
  obtain ⟨positions, publicKey, called, caches⟩ :=
    KeyMaterial.CachesAfter.exists_after material calls
  obtain ⟨last, ran, reached, finished⟩ := (caches.share requests).run (SharedKey.stepsLeft_le _)
  obtain ⟨invariant, -, same⟩ := (caches.share requests).reachable reached
  change last.material = material at same
  subst same
  refine ⟨Key.ofMaterial last.material, ⟨last.material, positions, publicKey⟩,
    last.threads.map (·.answers), last.toKey, last.events,
    Key.fromSeeds_seeds last.material.params last.material.secretSeed last.material.publicSeed,
    called, ?_, ?_, ?_, invariant.cells.reached⟩
  · have toEnd : ((Key.mk last.material positions publicKey).share requests).runToEnd = .ok last := ran
    rw [Key.shareAmong, toEnd]
  · rw [List.length_map]
    exact invariant.aligned
  · intro number given asked atNumber asks
    rw [List.getElem?_map, Option.map_eq_some_iff] at atNumber
    obtain ⟨thread, found, rfl⟩ := atNumber
    have served := (invariant.sound found asks).served
    have none : thread.requests = [] :=
      List.isEmpty_iff.1 (finished thread (List.mem_of_getElem? found))
    rwa [none] at served

end Winternitz
