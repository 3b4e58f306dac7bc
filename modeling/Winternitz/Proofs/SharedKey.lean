/-
Module: Winternitz.Proofs.SharedKey
Purpose: Threads that share a key get the answers of a single user, and one of them can always go on.
Main exports: SharedKey.Reachable, SharedKey.CachesKept, Thread.Sound, SharedKey.Invariant,
  Invariant.exists_move, Invariant.step, Invariant.reachable, Invariant.exists_step,
  Key.share_agrees
-/
import Winternitz.Proofs.SharedMoves

namespace Winternitz

/-!
A thread that has claimed the public key's cell never waits, and one that has
claimed the positions' cell waits for the public key alone.  Waiting threads
therefore form no circle.
-/

/-! ### Schedules -/

namespace SharedKey

/-- The states that threads taking steps in any order can reach. -/
inductive Reachable (first : SharedKey) : SharedKey → Prop where
  | start : Reachable first first
  | next {shared after : SharedKey} {number : Nat} (before : Reachable first shared)
      (stepped : shared.step number = .ok (some after)) : Reachable first after

/-- Every value that a cell of the earlier state shows is still there in the later one. -/
inductive CachesKept : SharedKey → SharedKey → Prop where
  | mk {material : KeyMaterial} {positions positions' : Cell material.params.Positions}
      {publicKey publicKey' : Cell PublicKey} {threads threads' : List (Thread material.params)}
      {events events' : List Event} (positions_kept : Keeps positions.get? positions'.get?)
      (publicKey_kept : Keeps publicKey.get? publicKey'.get?) :
      CachesKept ⟨material, positions, publicKey, threads, events⟩
        ⟨material, positions', publicKey', threads', events'⟩

theorem CachesKept.refl (shared : SharedKey) : shared.CachesKept shared :=
  .mk (.refl _) (.refl _)

theorem CachesKept.trans {first second third : SharedKey} (one : first.CachesKept second)
    (two : second.CachesKept third) : first.CachesKept third := by
  cases one with
  | mk positions publicKey =>
      cases two with
      | mk positions' publicKey' => exact .mk (positions.trans positions') (publicKey.trans publicKey')

end SharedKey

/-! ### What a move keeps -/

/-- Whether somebody has begun to fill a cell: 0 if not, else 1. -/
def Cell.begun {α : Type} : Cell α → Nat
  | empty => 0
  | _ => 1

/-- What holds of a thread at any time: its answers are those of a fresh key, its phase fits its
open request, and it owns exactly the cells that its phase says it has claimed. -/
structure Thread.Sound (material : KeyMaterial) (positions : Cell material.params.Positions)
    (publicKey : Cell PublicKey) (asked : List Request) (number : Nat)
    (thread : Thread material.params) : Prop where
  served : Served (Key.ofMaterial material) asked thread.answers thread.requests
  fits : thread.phase.Fits material publicKey.get? thread.requests
  owns_publicKey : publicKey = .claimed number ↔ thread.phase.claimsPublicKey = true
  owns_positions : positions = .claimed number ↔ thread.phase.claimsPositions = true

namespace Thread.Sound

variable {material : KeyMaterial} {positions positions' : Cell material.params.Positions}
  {publicKey publicKey' : Cell PublicKey} {asked : List Request} {number : Nat}
  {thread : Thread material.params}

theorem inPhase (sound : thread.Sound material positions publicKey asked number)
    {phase : Phase material.params} (fits : phase.Fits material publicKey'.get? thread.requests)
    (owns_publicKey : publicKey' = .claimed number ↔ phase.claimsPublicKey = true)
    (owns_positions : positions' = .claimed number ↔ phase.claimsPositions = true) :
    (thread.inPhase phase).Sound material positions' publicKey' asked number :=
  ⟨sound.served, fits, owns_publicKey, owns_positions⟩

theorem answered (sound : thread.Sound material positions publicKey asked number)
    {request : Request} {rest : List Request} {answer : Answer}
    (asks : thread.requests = request :: rest)
    (agrees : Answer.Agrees (Key.ofMaterial material) request answer)
    (free_publicKey : publicKey' ≠ .claimed number) (free_positions : positions' ≠ .claimed number) :
    (thread.answered answer).Sound material positions' publicKey' asked number := by
  have served := sound.served
  rw [asks] at served
  constructor
  · rw [Thread.answered, asks]
    exact served.next agrees
  · exact .ready
  · simpa [Thread.answered, Phase.claimsPublicKey] using free_publicKey
  · simpa [Thread.answered, Phase.claimsPositions] using free_positions

theorem publicKey_free (sound : thread.Sound material positions publicKey asked number)
    (free : thread.phase.claimsPublicKey = false) : publicKey ≠ .claimed number := by
  simp [sound.owns_publicKey, free]

theorem positions_free (sound : thread.Sound material positions publicKey asked number)
    (free : thread.phase.claimsPositions = false) : positions ≠ .claimed number := by
  simp [sound.owns_positions, free]

/-- A thread that has claimed a cell has a request open. -/
theorem unfinished (sound : thread.Sound material positions publicKey asked number)
    (claims : thread.phase.claimsPublicKey = true ∨ thread.phase.claimsPositions = true) :
    thread.finished = false := by
  have fits := sound.fits
  rw [Thread.finished]
  cases asks : thread.requests with
  | nil =>
      -- Without a request the only phase that fits is the one before any claim.
      rw [asks] at fits
      generalize thread.phase = phase at fits claims
      cases fits
      simp [Phase.claimsPublicKey, Phase.claimsPositions] at claims
  | cons request rest => rfl

end Thread.Sound

namespace Move

variable {material : KeyMaterial} {positions positions' : Cell material.params.Positions}
  {publicKey publicKey' : Cell PublicKey} {asked : List Request} {number : Nat}
  {thread thread' : Thread material.params} {more : List Event}
  (move : Move material number thread positions publicKey positions' publicKey' thread' more)
include move

theorem positions_kept : Keeps positions.get? positions'.get? := by
  cases move with
  | claimPositions => exact .of_empty _
  | publishPositions => exact .of_empty _
  | _ => exact .refl _

theorem publicKey_kept : Keeps publicKey.get? publicKey'.get? := by
  cases move with
  | claimPublicKey => exact .of_empty _
  | publishPublicKey => exact .of_empty _
  | settle asks phase complete unclaimed =>
      rcases unclaimed with rfl | rfl
      · exact .of_empty _
      · exact .refl _
  | _ => exact .refl _

theorem cells (cells : CellsHold material positions publicKey) :
    CellsHold material positions' publicKey' := by
  have publicKey_held : ∀ key, publicKey'.get? = some key → key = material.publicKey := by
    cases move with
    | claimPublicKey => simp [Cell.get?]
    | publishPublicKey => simp [Cell.get?]
    | settle => simp [Cell.get?]
    | _ => exact cells.publicKey_held
  refine ⟨publicKey_held, ?_⟩
  intro table held
  have earlier : positions.get? = some table →
      material.Recorded table ∧ publicKey'.get? = some material.publicKey := by
    intro held
    obtain ⟨complete, published⟩ := cells.positions_held table held
    exact ⟨complete, move.publicKey_kept _ published⟩
  cases move with
  | claimPositions => cases held
  | publishPositions asks phase complete settled =>
      cases held
      exact ⟨complete, settled⟩
  | _ => exact earlier held

/-- A move changes which cells its own thread has claimed, and nothing about the other threads'. -/
theorem publicKey_others {other : Nat} (differs : other ≠ number) :
    publicKey' = .claimed other ↔ publicKey = .claimed other := by
  cases move with
  | claimPublicKey => simp [differs.symm]
  | publishPublicKey => simp [differs.symm]
  | settle asks phase complete unclaimed => rcases unclaimed with rfl | rfl <;> simp
  | _ => rfl

theorem positions_others {other : Nat} (differs : other ≠ number) :
    positions' = .claimed other ↔ positions = .claimed other := by
  cases move with
  | claimPositions => simp [differs.symm]
  | publishPositions => simp [differs.symm]
  | _ => rfl

theorem sound_other {other : Nat} {bystander : Thread material.params} (differs : other ≠ number)
    (sound : bystander.Sound material positions publicKey asked other) :
    bystander.Sound material positions' publicKey' asked other := by
  constructor
  · exact sound.served
  · exact sound.fits.mono move.publicKey_kept
  · rw [move.publicKey_others differs]
    exact sound.owns_publicKey
  · rw [move.positions_others differs]
    exact sound.owns_positions

theorem sound_own (sound : thread.Sound material positions publicKey asked number) :
    thread'.Sound material positions' publicKey' asked number := by
  cases move with
  | answer asks idle agrees quiet =>
      exact sound.answered asks agrees (sound.publicKey_free idle.1) (sound.positions_free idle.2)
  | miss asks phase =>
      have idle : thread.phase.Idle := by
        rw [phase]
        exact Phase.idle_ready
      apply sound.inPhase
      · rw [asks]
        exact .missed
      · simpa [Phase.claimsPublicKey] using sound.publicKey_free idle.1
      · simpa [Phase.claimsPositions] using sound.positions_free idle.2
  | claimPublicKey asks phase =>
      have idle : thread.phase.Idle := by
        rw [phase]
        exact Phase.idle_missed
      apply sound.inPhase
      · rw [asks]
        exact .derived
      · simp [Phase.claimsPublicKey]
      · simpa [Phase.claimsPositions] using sound.positions_free idle.2
  | publishPublicKey asks phase =>
      apply sound.answered asks (Answer.Agrees.own_computed material)
      · simp
      · apply sound.positions_free
        rw [phase]
        rfl
  | claimPositions asks phase complete =>
      have idle : thread.phase.Idle := by
        rw [phase]
        exact Phase.idle_ready
      apply sound.inPhase
      · rw [asks]
        exact .recorded complete
      · simpa [Phase.claimsPublicKey] using sound.publicKey_free idle.1
      · simp [Phase.claimsPositions]
  | settle asks phase complete unclaimed =>
      have owned := sound.owns_positions
      rw [phase] at owned
      apply sound.inPhase
      · rw [asks]
        exact .settled complete rfl
      · simp [Phase.claimsPublicKey]
      · exact owned
  | publishPositions asks phase complete settled =>
      apply sound.answered asks .generated
      · apply sound.publicKey_free
        rw [phase]
        rfl
      · simp

/-- Generation is reported by the step that claims the positions' cell, and by no other. -/
theorem generations :
    more.count (.generatingLadders material.params) + positions.begun = positions'.begun := by
  cases move with
  | answer asks idle agrees quiet => rw [List.count_eq_zero_of_not_mem quiet, Nat.zero_add]
  | claimPositions => simp [Cell.begun]
  | _ => simp [Cell.begun]

end Move

/-! ### What every schedule keeps -/

/-- What holds in every state that threads with these requests reach.  `begun` says whether the
ladders were generated before the key was shared. -/
structure SharedKey.Invariant (requests : List (List Request)) (begun : Nat) (shared : SharedKey) :
    Prop where
  cells : CellsHold shared.material shared.positions shared.publicKey
  aligned : shared.threads.length = requests.length
  sound : ∀ {number : Nat} {thread : Thread shared.material.params} {asked : List Request},
    shared.threads[number]? = some thread → requests[number]? = some asked →
      thread.Sound shared.material shared.positions shared.publicKey asked number
  publicKey_owned : ∀ owner, shared.publicKey = .claimed owner → owner < shared.threads.length
  positions_owned : ∀ owner, shared.positions = .claimed owner → owner < shared.threads.length
  generations : shared.events.count (.generatingLadders shared.material.params) + begun =
    shared.positions.begun

namespace SharedKey.Invariant

variable {requests : List (List Request)} {begun : Nat} {shared : SharedKey}

theorem exists_thread (invariant : shared.Invariant requests begun) {number : Nat}
    (inside : number < shared.threads.length) :
    ∃ thread asked, shared.threads[number]? = some thread ∧
      thread.Sound shared.material shared.positions shared.publicKey asked number := by
  have found : shared.threads[number]? = some shared.threads[number] :=
    List.getElem?_eq_getElem inside
  have asks : number < requests.length := by
    rw [← invariant.aligned]
    exact inside
  exact ⟨_, _, found, invariant.sound found (List.getElem?_eq_getElem asks)⟩

/-- A step of any thread is one of the moves. -/
theorem stepped (invariant : shared.Invariant requests begun) {number : Nat}
    {thread : Thread shared.material.params} {asked : List Request}
    (found : shared.threads[number]? = some thread)
    (sound : thread.Sound shared.material shared.positions shared.publicKey asked number) :
    Stepped shared number thread (shared.step number) :=
  SharedKey.stepped invariant.cells found sound.fits sound.owns_publicKey.2 sound.owns_positions.2

theorem moved (invariant : shared.Invariant requests begun) {number : Nat}
    {thread after : Thread shared.material.params} (found : shared.threads[number]? = some thread)
    {positions : Cell shared.material.params.Positions} {publicKey : Cell PublicKey}
    {more : List Event}
    (move : Move shared.material number thread shared.positions shared.publicKey positions
      publicKey after more) :
    Invariant requests begun ⟨shared.material, positions, publicKey,
      shared.threads.set number after, shared.events ++ more⟩ := by
  have inside : number < shared.threads.length := (List.getElem?_eq_some_iff.1 found).1
  constructor
  · exact move.cells invariant.cells
  · rw [List.length_set]
    exact invariant.aligned
  · intro other bystander asked foundAfter asks
    by_cases same : other = number
    · subst same
      have own : after = bystander := by simpa [inside] using foundAfter
      subst own
      exact move.sound_own (invariant.sound found asks)
    · have foundBefore : shared.threads[other]? = some bystander := by
        simpa [List.getElem?_set_ne (Ne.symm same)] using foundAfter
      exact move.sound_other same (invariant.sound foundBefore asks)
  · intro owner claimed
    rw [List.length_set]
    by_cases same : owner = number
    · subst same
      exact inside
    · exact invariant.publicKey_owned owner ((move.publicKey_others same).1 claimed)
  · intro owner claimed
    rw [List.length_set]
    by_cases same : owner = number
    · subst same
      exact inside
    · exact invariant.positions_owned owner ((move.positions_others same).1 claimed)
  · rw [List.count_append, Nat.add_right_comm, invariant.generations, Nat.add_comm]
    exact move.generations

/-- Whatever step was taken, a thread has made one of the moves. -/
theorem exists_move (invariant : shared.Invariant requests begun) {number : Nat}
    {next : SharedKey} (stepped : shared.step number = .ok (some next)) :
    ∃ thread positions publicKey after more,
      shared.threads[number]? = some thread ∧
      Move shared.material number thread shared.positions shared.publicKey positions publicKey
        after more ∧
      next = ⟨shared.material, positions, publicKey, shared.threads.set number after,
        shared.events ++ more⟩ := by
  by_cases inside : number < shared.threads.length
  · obtain ⟨thread, asked, found, sound⟩ := invariant.exists_thread inside
    have steps := invariant.stepped found sound
    rw [stepped] at steps
    cases steps with
    | moved move => exact ⟨thread, _, _, _, _, found, move, rfl⟩
  · simp only [SharedKey.step, List.getElem?_eq_none (Nat.le_of_not_lt inside)] at stepped
    cases stepped

/-- A step keeps the invariant, the seeds and whatever the cells show. -/
theorem step (invariant : shared.Invariant requests begun) {number : Nat} {next : SharedKey}
    (stepped : shared.step number = .ok (some next)) :
    next.Invariant requests begun ∧ shared.CachesKept next ∧ next.material = shared.material := by
  obtain ⟨thread, _, _, after, more, found, move, rfl⟩ := invariant.exists_move stepped
  exact ⟨invariant.moved found move, .mk move.positions_kept move.publicKey_kept, rfl⟩

/-- No step breaks a contract, whichever thread takes it. -/
theorem step_ok (invariant : shared.Invariant requests begun) (number : Nat) :
    ∃ after, shared.step number = .ok after := by
  by_cases inside : number < shared.threads.length
  · obtain ⟨thread, asked, found, sound⟩ := invariant.exists_thread inside
    have steps := invariant.stepped found sound
    generalize shared.step number = result at steps
    cases steps with
    | moved move => exact ⟨_, rfl⟩
    | finished => exact ⟨_, rfl⟩
    | waiting => exact ⟨_, rfl⟩
  · refine ⟨none, ?_⟩
    simp only [SharedKey.step, List.getElem?_eq_none (Nat.le_of_not_lt inside)]
    rfl

theorem reachable (invariant : shared.Invariant requests begun) {later : SharedKey}
    (reached : shared.Reachable later) :
    later.Invariant requests begun ∧ shared.CachesKept later ∧
      later.material = shared.material := by
  induction reached with
  | start => exact ⟨invariant, .refl _, rfl⟩
  | next before stepped ih =>
      obtain ⟨between, keptBefore, sameBefore⟩ := ih
      obtain ⟨after, kept, same⟩ := between.step stepped
      exact ⟨after, keptBefore.trans kept, same.trans sameBefore⟩

/-! ### No deadlock -/

/-- A thread that neither has finished nor waits can take a step. -/
theorem step_of_thread (invariant : shared.Invariant requests begun) {number : Nat}
    {thread : Thread shared.material.params} {asked : List Request}
    (found : shared.threads[number]? = some thread)
    (sound : thread.Sound shared.material shared.positions shared.publicKey asked number)
    (unfinished : thread.finished = false)
    (ready : ¬ thread.Waits shared.positions shared.publicKey) :
    ∃ after, shared.step number = .ok (some after) := by
  have steps := invariant.stepped found sound
  generalize shared.step number = result at steps
  cases steps with
  | moved move => exact ⟨_, rfl⟩
  | finished finished => simp [unfinished] at finished
  | waiting waits => exact absurd waits ready

/-- While a thread has a request open, some thread can take a step.  The one that has claimed the
public key's cell can; if there is none, the one that has claimed the positions' cell can; and if
there is no such thread either, nobody waits. -/
theorem exists_step (invariant : shared.Invariant requests begun)
    (unfinished : ∃ thread ∈ shared.threads, thread.finished = false) :
    ∃ number after, shared.step number = .ok (some after) := by
  by_cases derives : ∃ owner, shared.publicKey = .claimed owner
  · obtain ⟨owner, claimed⟩ := derives
    obtain ⟨thread, asked, found, sound⟩ :=
      invariant.exists_thread (invariant.publicKey_owned owner claimed)
    have claims := sound.owns_publicKey.1 claimed
    refine ⟨owner, invariant.step_of_thread found sound (sound.unfinished (Or.inl claims)) ?_⟩
    intro waits
    cases waits with
    | publicKey _ free => simp [free] at claims
    | positions _ idle => simp [idle.1] at claims
  · by_cases records : ∃ owner, shared.positions = .claimed owner
    · obtain ⟨owner, claimed⟩ := records
      obtain ⟨thread, asked, found, sound⟩ :=
        invariant.exists_thread (invariant.positions_owned owner claimed)
      have claims := sound.owns_positions.1 claimed
      refine ⟨owner, invariant.step_of_thread found sound (sound.unfinished (Or.inr claims)) ?_⟩
      intro waits
      cases waits with
      | publicKey claimed _ => exact derives ⟨_, claimed⟩
      | positions _ idle => simp [idle.2] at claims
    · obtain ⟨thread, member, unfinished⟩ := unfinished
      obtain ⟨number, inside, rfl⟩ := List.mem_iff_getElem.1 member
      obtain ⟨thread, asked, found, sound⟩ := invariant.exists_thread inside
      rw [List.getElem?_eq_getElem inside, Option.some.injEq] at found
      rw [found] at unfinished
      have present : shared.threads[number]? = some thread := by
        rw [List.getElem?_eq_getElem inside, found]
      refine ⟨number, invariant.step_of_thread present sound unfinished ?_⟩
      intro waits
      cases waits with
      | publicKey claimed _ => exact derives ⟨_, claimed⟩
      | positions claimed _ => exact records ⟨_, claimed⟩

end SharedKey.Invariant

/-! ### Sharing a key -/

namespace Cell

variable {α : Type} (value : Option α)

@[simp] theorem get?_ofOption : (ofOption value).get? = value := by
  cases value <;> rfl

@[simp] theorem ofOption_ne_claimed (owner : Nat) : ofOption value ≠ .claimed owner := by
  cases value <;> simp [ofOption]

theorem begun_le (cell : Cell α) : cell.begun ≤ 1 := by
  cases cell <;> simp [begun]

theorem begun_ofOption : (ofOption value).begun = value.isSome.toNat := by
  cases value <;> rfl

end Cell

theorem Thread.Sound.start {material : KeyMaterial} {positions : Cell material.params.Positions}
    {publicKey : Cell PublicKey} {number : Nat} (free_positions : positions ≠ .claimed number)
    (free_publicKey : publicKey ≠ .claimed number) (asked : List Request) :
    (Thread.ofRequests asked).Sound material positions publicKey asked number := by
  constructor
  · exact .start
  · exact .ready
  · simpa [Thread.ofRequests, Phase.claimsPublicKey] using free_publicKey
  · simpa [Thread.ofRequests, Phase.claimsPositions] using free_positions

/-- Threads may begin with a key in any state in which single calls have left it. -/
theorem KeyMaterial.CachesAfter.share {material : KeyMaterial} {calls : List Call}
    {positions : Option material.params.Positions} {publicKey : Option PublicKey}
    (caches : material.CachesAfter calls positions publicKey) (requests : List (List Request)) :
    ((Key.mk material positions publicKey).share requests).Invariant requests
      positions.isSome.toNat := by
  constructor
  · constructor
    · intro key held
      change (Cell.ofOption publicKey).get? = some key at held
      rw [Cell.get?_ofOption] at held
      exact caches.publicKey_held key held
    · intro table held
      change (Cell.ofOption positions).get? = some table at held
      rw [Cell.get?_ofOption] at held
      have generated : .request .generate ∈ calls := by
        rw [← caches.positions_filled, held]
        rfl
      obtain ⟨key, cached⟩ := Option.isSome_iff_exists.1 (caches.publicKey_filled.2 (Or.inr generated))
      refine ⟨caches.positions_held table held, ?_⟩
      change (Cell.ofOption publicKey).get? = some material.publicKey
      rw [Cell.get?_ofOption, cached, caches.publicKey_held key cached]
  · exact List.length_map ..
  · intro number thread asked found asks
    have began : (requests.map (Thread.ofRequests : List Request → Thread material.params))[number]? =
        some (Thread.ofRequests asked) := by
      rw [List.getElem?_map, asks]
      rfl
    cases began.symm.trans found
    exact .start (Cell.ofOption_ne_claimed _ _) (Cell.ofOption_ne_claimed _ _) asked
  · intro owner claimed
    exact absurd claimed (Cell.ofOption_ne_claimed _ owner)
  · intro owner claimed
    exact absurd claimed (Cell.ofOption_ne_claimed _ owner)
  · exact (Nat.zero_add _).trans (Cell.begun_ofOption _).symm

/-- Threads share a key that was used in any way before.  In every state that they reach, in
whatever order they take their steps, every answer is the one a fresh key with the same seeds gives
its only user; the positions are not visible without the public key; what is visible stays; the
ladders are generated at most once; no step breaks a contract; and if some thread still has a
request open, then one of them can take a step. -/
theorem Key.share_agrees (material : KeyMaterial) (calls : List Call)
    (requests : List (List Request)) :
    ∃ fresh used,
      Key.fromSeeds material.params material.secretSeed.bytes material.publicSeed.bytes =
        .ok fresh ∧
      fresh.after calls = .ok used ∧
      ∀ shared, (used.share requests).Reachable shared →
        shared.threads.length = requests.length ∧
        (∀ (number : Nat) (thread : Thread shared.material.params) (asked : List Request),
          shared.threads[number]? = some thread → requests[number]? = some asked →
          Served fresh asked thread.answers thread.requests) ∧
        (shared.positions.get?.isSome = true → shared.publicKey.get?.isSome = true) ∧
        (∀ later, shared.Reachable later → shared.CachesKept later) ∧
        shared.events.count (.generatingLadders material.params) ≤
          (if used.isGenerated then 0 else 1) ∧
        (∀ number, ∃ after, shared.step number = .ok after) ∧
        ((∃ thread ∈ shared.threads, thread.finished = false) →
          ∃ number after, shared.step number = .ok (some after)) := by
  obtain ⟨positions, publicKey, called, caches⟩ :=
    KeyMaterial.CachesAfter.exists_after material calls
  refine ⟨Key.ofMaterial material, ⟨material, positions, publicKey⟩,
    Key.fromSeeds_seeds material.params material.secretSeed material.publicSeed, called, ?_⟩
  intro shared reached
  obtain ⟨invariant, -, same⟩ := (caches.share requests).reachable reached
  -- Steps leave the seeds alone, so they may stand for the ones at the start.
  change shared.material = material at same
  subst same
  refine ⟨invariant.aligned, ?_, ?_, ?_, ?_, invariant.step_ok, invariant.exists_step⟩
  · intro number thread asked found asks
    exact (invariant.sound found asks).served
  · intro visible
    obtain ⟨table, held⟩ := Option.isSome_iff_exists.1 visible
    rw [(invariant.cells.positions_held table held).2]
    rfl
  · intro later further
    exact (invariant.reachable further).2.1
  · have once := Cell.begun_le shared.positions
    rw [← invariant.generations] at once
    cases positions with
    | none => exact once
    | some table => exact Nat.le_of_succ_le_succ once

end Winternitz
