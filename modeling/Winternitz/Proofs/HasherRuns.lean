/-
Module: Winternitz.Proofs.HasherRuns
Purpose: A hasher used step after step forgets everything up to the last step that emptied it.
Main exports: Sha3.take_squeeze, HashFamily.stream, Hasher.perform_update,
  Hasher.finalize_afterFinalize, Hasher.run_update, Hasher.run_fresh, Hasher.accounted,
  Hasher.run_steps
-/
import Winternitz.Hash.Steps
import Winternitz.Proofs.Compression

namespace Winternitz

/-!
A hasher is at any time a fresh one that has taken in some byte string at once.
One step changes that byte string as `HashStep.absorbed` says, and the bytes that
it gives depend on nothing else; a run repeats this.  Of the extendable family
every output is a beginning of one and the same stream.
-/

/-! ### Outputs of one family -/

namespace Sha3

variable {rate : Nat} (positive : 0 < rate) (state : State)

/-- Output that fits into one block comes from the state as it is. -/
theorem squeeze_short {length : Nat} (within : length ≤ rate) :
    squeeze rate positive state length = state.toBytes.take length := by
  rw [squeeze, if_pos within]

/-- Longer output goes on with the next state. -/
theorem squeeze_long {length : Nat} (beyond : ¬ length ≤ rate) :
    squeeze rate positive state length =
      state.toBytes.take rate ++ squeeze rate positive state.permute (length - rate) := by
  rw [squeeze, if_neg beyond]

/-- A longer output of the sponge begins with every shorter one. -/
theorem take_squeeze (fits : rate ≤ 200) {short long : Nat} (shorter : short ≤ long) :
    (squeeze rate positive state long).take short = squeeze rate positive state short := by
  fun_induction squeeze rate positive state long generalizing short with
  | case1 state long within =>
      rw [squeeze_short positive state (Nat.le_trans shorter within), List.take_take,
        Nat.min_eq_left shorter]
  | case2 state long beyond ih =>
      have block : (state.toBytes.take rate).length = rate := by
        rw [List.length_take, length_toBytes, Nat.min_eq_left fits]
      rw [List.take_append, block]
      by_cases within : short ≤ rate
      · -- The first block is enough, and nothing is taken from the later ones.
        rw [squeeze_short positive state within, List.take_take, Nat.min_eq_left within,
          Nat.sub_eq_zero_of_le within, List.take_zero, List.append_nil]
      · have whole : (state.toBytes.take rate).take short = state.toBytes.take rate := by
          apply List.take_of_length_le
          omega
        rw [squeeze_long positive state within, whole, ih (by omega)]

end Sha3

namespace HashFamily

theorem length_outputOf_shake (data : Bytes) (length : Nat) :
    (shake256_2048.outputOf data length).length = length :=
  Sha3.length_squeeze _ (by decide) _ _ (by decide)

/-- A byte of the stream that all outputs for `data` begin. -/
def stream (data : Bytes) (position : Nat) : UInt8 :=
  (shake256_2048.outputOf data (position + 1)).getD position 0

/-- An output of the extendable family is the beginning of that length of its stream. -/
theorem outputOf_shake (data : Bytes) (length : Nat) :
    shake256_2048.outputOf data length = (List.range length).map (stream data) := by
  apply List.ext_getElem?
  intro position
  by_cases inside : position < length
  · have shorter : (shake256_2048.outputOf data length).take (position + 1) =
        shake256_2048.outputOf data (position + 1) :=
      Sha3.take_squeeze (by decide) _ (by decide) inside
    have present : position < (shake256_2048.outputOf data length).length := by
      rw [length_outputOf_shake]
      exact inside
    rw [List.getElem?_map, List.getElem?_range inside, Option.map_some, stream, ← shorter,
      List.getD_eq_getElem?_getD, List.getElem?_take_of_lt (Nat.lt_succ_self _),
      List.getElem?_eq_getElem present, Option.getD_some]
  · rw [List.getElem?_eq_none, List.getElem?_eq_none]
    · rw [List.length_map, List.length_range]
      exact Nat.le_of_not_lt inside
    · rw [length_outputOf_shake]
      exact Nat.le_of_not_lt inside

/-- A caller may ask the family for outputs of this length. -/
def Gives (family : HashFamily) (length : Nat) : Prop :=
  family = .shake256_2048 ∨ length = family.size

/-- What the steps of a run give, one after the other. -/
def answers (family : HashFamily) (taken : Bytes) : List HashStep → List (Option Bytes)
  | [] => []
  | step :: steps => family.answer taken step :: family.answers (step.absorbed taken) steps

theorem length_answers (family : HashFamily) (taken : Bytes) (steps : List HashStep) :
    (family.answers taken steps).length = steps.length := by
  induction steps generalizing taken with
  | nil => rfl
  | cons step steps ih => rw [answers, List.length_cons, ih, List.length_cons]

/-- Each step finds what the steps before it have left. -/
theorem getElem?_answers (family : HashFamily) (taken : Bytes) (before : List HashStep)
    (step : HashStep) (rest : List HashStep) :
    (family.answers taken (before ++ step :: rest))[before.length]? =
      some (family.answer (before.foldl HashStep.absorbed taken) step) := by
  induction before generalizing taken with
  | nil => rfl
  | cons first before ih =>
      rw [List.cons_append, answers, List.length_cons, List.getElem?_cons_succ, ih]
      rfl

end HashFamily

/-! ### One step -/

namespace Hasher

variable {family : HashFamily}

/-- An output is given exactly for the lengths that the family gives. -/
theorem finalize_of_gives {length : Nat} (gives : family.Gives length) (hasher : Hasher family) :
    hasher.finalize length = .ok (hasher.absorber.output length, fresh family) :=
  (finalize_eq hasher length).trans (if_pos gives)

theorem finalize_of_not_gives {length : Nat} (refused : ¬ family.Gives length)
    (hasher : Hasher family) :
    hasher.finalize length = .error (.outputSize family.size length) :=
  (finalize_eq hasher length).trans (if_neg refused)

/-- A step of a hasher depends on what it has taken in since it was last empty, and on nothing
else. -/
theorem perform_update (taken : Bytes) {step : HashStep}
    (gives : ∀ length, step = .finalize length → family.Gives length) :
    ((fresh family).update taken).perform step =
      .ok (family.answer taken step, (fresh family).update (step.absorbed taken)) := by
  cases step with
  | update data =>
      rw [HashStep.absorbed, update_append]
      rfl
  | reset =>
      rw [HashStep.absorbed, fresh_update_nil]
      rfl
  | finalize length =>
      have output := finalize_of_gives (gives length rfl) ((fresh family).update taken)
      rw [perform, Fault.bind_of_ok _ output, HashStep.absorbed, fresh_update_nil]
      rfl
  | oneShot data =>
      rw [HashStep.absorbed, fresh_update_nil]
      rfl

theorem gives_of_perform {hasher : Hasher family} {length : Nat}
    {result : Option Bytes × Hasher family}
    (performed : hasher.perform (.finalize length) = .ok result) : family.Gives length := by
  by_cases gives : family.Gives length
  · exact gives
  · rw [perform, finalize_of_not_gives gives] at performed
    cases performed

/-! ### Refused outputs -/

/-- Of all hashers only one whose output is copied before it is emptied keeps what it has taken in
when it refuses a length. -/
theorem afterFinalize_of_not_gives {length : Nat} (refused : ¬ family.Gives length)
    (taken : Bytes) :
    ((fresh family).update taken).afterFinalize length =
      (fresh family).update (if family = .blake3_256 then taken else []) := by
  have other : length ≠ family.size := fun same => refused (Or.inr same)
  rw [afterFinalize_eq]
  by_cases copied : family = .blake3_256
  · rw [if_pos ⟨copied, other⟩, if_pos copied]
  · rw [if_neg fun kept => copied kept.1, if_neg copied, fresh_update_nil]

/-- A caller that goes on after a refusal gets the digest of all its input from such a hasher, and from
every other one that of the input since the refusal. -/
theorem finalize_afterFinalize {length : Nat} (refused : ¬ family.Gives length)
    (taken more : Bytes) :
    ((((fresh family).update taken).afterFinalize length).update more).finalize family.size =
      .ok (family.digest ((if family = .blake3_256 then taken else []) ++ more), fresh family) := by
  rw [afterFinalize_of_not_gives refused, ← update_append, finalize_of_gives (Or.inr rfl)]
  rfl

/-! ### Runs -/

/-- A run gives what its steps give one after the other. -/
theorem run_update (taken : Bytes) {steps : List HashStep}
    (gives : ∀ length, .finalize length ∈ steps → family.Gives length) :
    ((fresh family).update taken).run steps =
      .ok (family.answers taken steps,
        (fresh family).update (steps.foldl HashStep.absorbed taken)) := by
  induction steps generalizing taken with
  | nil => rfl
  | cons step steps ih =>
      have first : ∀ length, step = .finalize length → family.Gives length := by
        rintro length rfl
        exact gives length (by simp)
      have rest : ∀ length, .finalize length ∈ steps → family.Gives length :=
        fun length member => gives length (by simp [member])
      rw [run, Fault.bind_of_ok _ (perform_update taken first)]
      change ((fresh family).update (step.absorbed taken)).run steps >>= _ = _
      rw [Fault.bind_of_ok _ (ih (step.absorbed taken) rest)]
      rfl

theorem run_fresh {steps : List HashStep}
    (gives : ∀ length, .finalize length ∈ steps → family.Gives length) :
    (fresh family).run steps =
      .ok (family.answers [] steps, (fresh family).update (absorbedAfter steps)) := by
  have ran := run_update [] gives
  rwa [fresh_update_nil] at ran

/-- A run in which an output of a wrong length is asked for does not come to its end. -/
theorem gives_of_run {hasher : Hasher family} {steps : List HashStep}
    {result : List (Option Bytes) × Hasher family} (ran : hasher.run steps = .ok result) :
    ∀ length, .finalize length ∈ steps → family.Gives length := by
  induction steps generalizing hasher result with
  | nil =>
      intro length member
      cases member
  | cons step steps ih =>
      rw [run] at ran
      cases performed : hasher.perform step with
      | error cause =>
          rw [performed] at ran
          cases ran
      | ok first =>
          rw [Fault.bind_of_ok _ performed] at ran
          cases others : first.2.run steps with
          | error cause =>
              change first.2.run steps >>= _ = _ at ran
              rw [others] at ran
              cases ran
          | ok rest =>
              intro length member
              rcases List.mem_cons.1 member with rfl | later
              · exact gives_of_perform performed
              · exact ih others length later

/-- What a run gave, by its steps alone. -/
structure Accounted (family : HashFamily) (steps : List HashStep) (outputs : List (Option Bytes))
    (after : Hasher family) : Prop where
  length_eq : outputs.length = steps.length
  /-- Each step answers for what was taken in since the hasher was last empty. -/
  answered : ∀ before step rest, steps = before ++ step :: rest →
    outputs[before.length]? = some (family.answer (absorbedAfter before) step)
  /-- The hasher is as if it had taken in at once what came since it was last empty. -/
  left : after = (fresh family).update (absorbedAfter steps)

theorem accounted {steps : List HashStep} {outputs : List (Option Bytes)} {after : Hasher family}
    (ran : (fresh family).run steps = .ok (outputs, after)) :
    Accounted family steps outputs after := by
  rw [run_fresh (gives_of_run ran)] at ran
  cases ran
  constructor
  · exact family.length_answers [] steps
  · rintro before step rest rfl
    exact family.getElem?_answers [] before step rest
  · rfl

/-- Runs of one hasher: they come to their end unless a length is asked for that the family does not
give, every output is that of a fresh hasher for the bytes taken in since the hasher was last empty,
and of the extendable family the outputs for the same bytes are beginnings of one stream. -/
theorem run_steps (family : HashFamily) (steps : List HashStep) :
    ((∃ result, (fresh family).run steps = .ok result) ↔
      ∀ length, .finalize length ∈ steps → family = .shake256_2048 ∨ length = family.size) ∧
    (∀ outputs after, (fresh family).run steps = .ok (outputs, after) →
      Accounted family steps outputs after) ∧
    (∀ (hasher : Hasher family) (length : Nat), (∃ cause, hasher.finalize length = .error cause) ↔
      family ≠ .shake256_2048 ∧ length ≠ family.size) ∧
    (∀ data, family.outputOf data family.size = ((fresh family).oneShot data).1) ∧
    (∃ stream : Bytes → Nat → UInt8, ∀ data length,
      HashFamily.shake256_2048.outputOf data length = (List.range length).map (stream data)) := by
  refine ⟨?_, fun _ _ => accounted, ?_, fun _ => rfl, HashFamily.stream, HashFamily.outputOf_shake⟩
  · constructor
    · rintro ⟨result, ran⟩
      exact gives_of_run ran
    · intro gives
      exact ⟨_, run_fresh gives⟩
  · intro hasher length
    have meaning : ¬ family.Gives length ↔ family ≠ .shake256_2048 ∧ length ≠ family.size := not_or
    rw [← meaning]
    constructor
    · rintro ⟨cause, refused⟩ gives
      rw [finalize_of_gives gives] at refused
      cases refused
    · intro refused
      exact ⟨_, finalize_of_not_gives refused hasher⟩

end Hasher

end Winternitz
