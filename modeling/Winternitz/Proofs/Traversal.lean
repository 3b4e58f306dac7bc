/-
Module: Winternitz.Proofs.Traversal
Purpose: Walking all ladders with one hasher gives the walks, and records every position passed.
Main exports: Params.returns_climb, Params.returns_climbAll, Params.plannedSpans, Params.walks,
  Params.traverse_spec
-/
import Winternitz.Ladder.Traversal
import Winternitz.Proofs.Digits
import Winternitz.Proofs.Table
import Winternitz.Proofs.Walk

namespace Winternitz

open Hashing

/-!
A traversal carries a hasher and perhaps a table from step to step and from
ladder to ladder.  The hasher is empty between any two steps.  Of the table it is
enough to know what was recorded where; a traversal of several ladders records
what the walks on them record, one after the other.
-/

/-! ### What is recorded in a table -/

/-- The values recorded on the way, by depth and ladder. -/
abbrev Recording := Nat → Nat → Option Bytes

/-- A recording followed by a later one, which wins where both have a value. -/
def Recording.andThen (first second : Recording) : Recording :=
  fun depth ladder => (second depth ladder).or (first depth ladder)

/-- The second table, if one is kept, is the first one with a recording put over it. -/
def Recording.Turns {size ladders : Nat} (recording : Recording) :
    Option (Table size ladders) → Option (Table size ladders) → Prop
  | none, after => after = none
  | some before, after => ∃ table, after = some table ∧ ∀ depth ladder, ladder < ladders →
      table.value depth ladder = (recording depth ladder).getD (before.value depth ladder)

namespace Recording

variable {size ladders : Nat}

theorem turns_self (table : Option (Table size ladders)) :
    Turns (fun _ _ => none) table table := by
  cases table with
  | none => rfl
  | some table => exact ⟨table, rfl, fun _ _ _ => rfl⟩

theorem Turns.andThen {first second : Recording} {before middle after : Option (Table size ladders)}
    (one : first.Turns before middle) (two : second.Turns middle after) :
    (first.andThen second).Turns before after := by
  cases before with
  | none =>
      have untouched : middle = none := one
      subst untouched
      exact two
  | some before =>
      rcases one with ⟨table, rfl, recorded⟩
      rcases two with ⟨final, rfl, later⟩
      refine ⟨final, rfl, ?_⟩
      intro depth ladder wide
      rw [later depth ladder wide, recorded depth ladder wide, Recording.andThen]
      cases second depth ladder <;> rfl

theorem Turns.congr {recording other : Recording} {before after : Option (Table size ladders)}
    (turns : recording.Turns before after)
    (agree : ∀ depth ladder, recording depth ladder = other depth ladder) :
    other.Turns before after := by
  have same : recording = other := funext fun depth => funext fun ladder => agree depth ladder
  exact same ▸ turns

end Recording

namespace Params

variable (params : Params) (publicSeed : Bytes)

/-! ### One ladder -/

/-- The masking elements of all steps. -/
def masks : List Bytes := (List.range ladderSteps).map (params.mask publicSeed)

theorem returns_masks :
    Returns (maskingElements params.elementSize publicSeed : Hashing params.prfHash (List Bytes))
      (params.masks publicSeed) :=
  returns_maskingElements params.elementSize_pos params.elementSize_fits publicSeed

theorem getElem?_masks {depth : Nat} (inRange : depth < ladderSteps) :
    (params.masks publicSeed).toArray[depth]? = some (params.mask publicSeed depth) := by
  rw [masks, List.getElem?_toArray, List.getElem?_map, List.getElem?_range inRange]
  rfl

theorem returns_climbStep {depth : Nat} (inRange : depth < ladderSteps) (value : Bytes) :
    Returns (climbStep params.elementSize (params.masks publicSeed).toArray publicSeed depth value :
        Hashing params.prfHash Bytes)
      (params.step publicSeed depth value) := by
  have small : depth + 1 < 256 := Nat.succ_lt_succ inRange
  rw [climbStep, params.getElem?_masks publicSeed inRange]
  apply (Returns.lift (byteOf_of_lt small)).andThen
  apply (returns_chain publicSeed _ _).andThen
  exact Returns.lift (slice_digest params.elementSize_fits _)

/-- A single value recorded. -/
def recordedAt (depth ladder : Nat) (value : Bytes) : Recording :=
  fun depth' ladder' => if depth' = depth ∧ ladder' = ladder then some value else none

theorem keep_spec {depth ladder : Nat} {value : Bytes} (deep : depth < base)
    (wide : ladder < params.ladders) (sized : value.length = params.elementSize)
    (before : Option params.Positions) :
    ∃ after, keep depth ladder value before = .ok after ∧
      (recordedAt depth ladder value).Turns before after := by
  cases before with
  | none => exact ⟨none, rfl, rfl⟩
  | some before =>
      obtain ⟨table, put, values⟩ := before.put_spec deep wide sized
      refine ⟨some table, ?_, table, rfl, ?_⟩
      · rw [keep, Fault.bind_of_ok _ put]
        rfl
      · intro depth' ladder' wide'
        rw [values depth' ladder' wide', recordedAt]
        split <;> rfl

/-- Every value that a walk reaches, the first one apart. -/
def recordedOn (ladder steps depth : Nat) (value : Bytes) : Recording :=
  fun depth' ladder' =>
    if ladder' = ladder ∧ depth < depth' ∧ depth' ≤ depth + steps then
      some (params.walk publicSeed (depth' - depth) depth value)
    else none

theorem recordedOn_succ (ladder steps depth : Nat) (value : Bytes) (depth' ladder' : Nat) :
    (recordedAt (depth + 1) ladder (params.step publicSeed depth value)).andThen
        (params.recordedOn publicSeed ladder steps (depth + 1) (params.step publicSeed depth value))
        depth' ladder' =
      params.recordedOn publicSeed ladder (steps + 1) depth value depth' ladder' := by
  rw [Recording.andThen, recordedAt, recordedOn, recordedOn]
  by_cases later : ladder' = ladder ∧ depth + 1 < depth' ∧ depth' ≤ depth + 1 + steps
  · have reached : ladder' = ladder ∧ depth < depth' ∧ depth' ≤ depth + (steps + 1) := by omega
    have taken : depth' - depth = depth' - (depth + 1) + 1 := by omega
    rw [if_pos later, if_pos reached, taken]
    rfl
  · rw [if_neg later, Option.none_or]
    by_cases first : depth' = depth + 1 ∧ ladder' = ladder
    · have reached : ladder' = ladder ∧ depth < depth' ∧ depth' ≤ depth + (steps + 1) := by omega
      have taken : depth' - depth = 1 := by omega
      rw [if_pos first, if_pos reached, taken]
      rfl
    · have missed : ¬ (ladder' = ladder ∧ depth < depth' ∧ depth' ≤ depth + (steps + 1)) := by omega
      rw [if_neg first, if_neg missed]

/-- A climb is a walk, and records it. -/
theorem returns_climb {ladder : Nat} (wide : ladder < params.ladders) {steps depth : Nat}
    (high : depth + steps ≤ ladderSteps) (value : Bytes) (before : Option params.Positions) :
    ∃ after,
      Returns (climb (params.masks publicSeed).toArray publicSeed ladder steps depth value before :
          Hashing params.prfHash (Bytes × Option params.Positions))
        (params.walk publicSeed steps depth value, after) ∧
      (params.recordedOn publicSeed ladder steps depth value).Turns before after := by
  induction steps generalizing depth value before with
  | zero =>
      refine ⟨before, Returns.pure _, (Recording.turns_self before).congr ?_⟩
      intro depth' ladder'
      rw [recordedOn, if_neg (by omega)]
  | succ steps ih =>
      have inRange : depth < ladderSteps := by omega
      obtain ⟨middle, kept, recorded⟩ :=
        params.keep_spec (Nat.succ_lt_succ inRange) wide (params.length_step publicSeed depth value)
          before
      obtain ⟨after, climbed, later⟩ :=
        @ih (depth + 1) (by omega) (params.step publicSeed depth value) middle
      refine ⟨after, ?_, (recorded.andThen later).congr ?_⟩
      · rw [climb]
        apply (params.returns_climbStep publicSeed inRange value).andThen
        apply (Returns.lift kept).andThen
        exact climbed
      · exact params.recordedOn_succ publicSeed ladder steps depth value

/-! ### All ladders -/

/-- Where each ladder's walk ends. -/
def walks (points : List Bytes) (spans : List Span) : List Bytes :=
  List.zipWith
    (fun point span => params.walk publicSeed (span.last - span.first) span.first point) points spans

/-- What the walks on several ladders reach, the first of them having the number `ladder`. -/
def recordedOnAll : (ladder : Nat) → List Bytes → List Span → Recording
  | ladder, point :: points, span :: spans =>
      (params.recordedOn publicSeed ladder (span.last - span.first) span.first point).andThen
        (recordedOnAll (ladder + 1) points spans)
  | _, _, _ => fun _ _ => none

/-- Ladders before the first one are left alone. -/
theorem recordedOnAll_below {ladder ladder' : Nat} (below : ladder' < ladder) (points : List Bytes)
    (spans : List Span) (depth' : Nat) :
    params.recordedOnAll publicSeed ladder points spans depth' ladder' = none := by
  induction points generalizing ladder spans with
  | nil => rfl
  | cons point points ih =>
      cases spans with
      | nil => rfl
      | cons span spans =>
          have other : ¬ (ladder' = ladder ∧ span.first < depth' ∧
              depth' ≤ span.first + (span.last - span.first)) := by omega
          rw [recordedOnAll, Recording.andThen, ih (Nat.lt_succ_of_lt below), recordedOn,
            if_neg other]
          rfl

/-- Each ladder keeps what its own walk reached. -/
theorem recordedOnAll_at {points : List Bytes} {spans : List Span} {position : Nat} {point : Bytes}
    {span : Span} (start : points[position]? = some point) (part : spans[position]? = some span)
    (ladder depth' : Nat) :
    params.recordedOnAll publicSeed ladder points spans depth' (ladder + position) =
      params.recordedOn publicSeed (ladder + position) (span.last - span.first) span.first point
        depth' (ladder + position) := by
  induction points generalizing ladder spans position with
  | nil => simp at start
  | cons first points ih =>
      cases spans with
      | nil => simp at part
      | cons firstSpan spans =>
          cases position with
          | zero =>
              rw [List.getElem?_cons_zero, Option.some.injEq] at start part
              subst start part
              rw [Nat.add_zero, recordedOnAll, Recording.andThen,
                params.recordedOnAll_below publicSeed (Nat.lt_succ_self ladder)]
              rfl
          | succ position =>
              rw [List.getElem?_cons_succ] at start part
              have further : ladder + (position + 1) = ladder + 1 + position := by omega
              have other : ¬ (ladder + 1 + position = ladder ∧ firstSpan.first < depth' ∧
                  depth' ≤ firstSpan.first + (firstSpan.last - firstSpan.first)) := by omega
              rw [further, recordedOnAll, Recording.andThen, ih start part, recordedOn, recordedOn,
                if_neg other, Option.or_none]

/-- Walks over whole ladders reach every position but the first of each. -/
theorem recordedOnAll_whole {points : List Bytes} {ladder count : Nat} {point : Bytes}
    (start : points[ladder]? = some point) (wide : ladder < count) (depth : Nat) :
    params.recordedOnAll publicSeed 0 points (List.replicate count ⟨0, ladderSteps⟩) depth ladder =
      if 0 < depth ∧ depth ≤ ladderSteps then some (params.walk publicSeed depth 0 point)
      else none := by
  have part : (List.replicate count (⟨0, ladderSteps⟩ : Span))[ladder]? = some ⟨0, ladderSteps⟩ := by
    rw [List.getElem?_replicate, if_pos wide]
  have own := params.recordedOnAll_at publicSeed start part 0 depth
  rw [Nat.zero_add] at own
  rw [own, recordedOn]
  simp

/-- Climbing all ladders gives the end of every walk in order, and records all of them. -/
theorem returns_climbAll {ladder : Nat} {points : List Bytes} {spans : List Span}
    (aligned : points.length = spans.length) (wide : ladder + points.length ≤ params.ladders)
    (high : ∀ span ∈ spans, span.first ≤ span.last ∧ span.last ≤ ladderSteps)
    (before : Option params.Positions) :
    ∃ after,
      Returns (climbAll (params.masks publicSeed).toArray publicSeed ladder points spans before :
          Hashing params.prfHash (List Bytes × Option params.Positions))
        (params.walks publicSeed points spans, after) ∧
      (params.recordedOnAll publicSeed ladder points spans).Turns before after := by
  induction points generalizing ladder spans before with
  | nil =>
      have none : spans = [] := List.eq_nil_of_length_eq_zero aligned.symm
      subst none
      exact ⟨before, Returns.pure _, Recording.turns_self before⟩
  | cons point points ih =>
      cases spans with
      | nil => simp at aligned
      | cons span spans =>
          rw [List.length_cons] at wide
          rcases high span (by simp) with ⟨ordered, top⟩
          obtain ⟨middle, climbed, recorded⟩ :=
            @returns_climb params publicSeed ladder (by omega) (span.last - span.first) span.first
              (by omega) point before
          obtain ⟨after, others, later⟩ :=
            @ih (ladder + 1) spans (by simpa using aligned) (by omega)
              (fun other member => high other (by simp [member])) middle
          refine ⟨after, ?_, recorded.andThen later⟩
          rw [climbAll]
          apply climbed.andThen
          apply others.andThen
          exact Returns.pure _

/-! ### Traversals -/

/-- The part of each ladder that a traversal is meant to walk. -/
def plannedSpans : Traversal params → List Span
  | .full | .record _ => List.replicate params.ladders ⟨0, ladderSteps⟩
  | .sign message => (params.digits message).map fun digit => ⟨0, digit.toNat⟩
  | .decode message => (params.digits message).map fun digit => ⟨digit.toNat, ladderSteps⟩

theorem spans_eq (traversal : Traversal params) :
    params.spans traversal = .ok (params.plannedSpans traversal) := by
  cases traversal with
  | full => rfl
  | record table => rfl
  | sign message =>
      rw [spans, Fault.bind_of_ok _ (params.computeDigits_eq message)]
      rfl
  | decode message =>
      rw [spans, Fault.bind_of_ok _ (params.computeDigits_eq message)]
      rfl

theorem length_plannedSpans (traversal : Traversal params) :
    (params.plannedSpans traversal).length = params.ladders := by
  cases traversal with
  | full => exact List.length_replicate
  | record table => exact List.length_replicate
  | sign message => exact (List.length_map ..).trans (params.length_digits message)
  | decode message => exact (List.length_map ..).trans (params.length_digits message)

/-- No walk goes backwards or beyond the last position. -/
theorem plannedSpans_within (traversal : Traversal params) :
    ∀ span ∈ params.plannedSpans traversal, span.first ≤ span.last ∧ span.last ≤ ladderSteps := by
  have whole : ∀ span ∈ List.replicate params.ladders (⟨0, ladderSteps⟩ : Span),
      span.first ≤ span.last ∧ span.last ≤ ladderSteps := by
    intro span member
    rw [List.eq_of_mem_replicate member]
    exact ⟨Nat.zero_le _, Nat.le_refl _⟩
  cases traversal with
  | full => exact whole
  | record table => exact whole
  | sign message =>
      intro span member
      rcases List.mem_map.1 member with ⟨digit, -, rfl⟩
      exact ⟨Nat.zero_le _, toNat_le_ladderSteps digit⟩
  | decode message =>
      intro span member
      rcases List.mem_map.1 member with ⟨digit, -, rfl⟩
      exact ⟨toNat_le_ladderSteps digit, Nat.le_refl _⟩

/-- The table that a traversal is given. -/
def tableOf : Traversal params → Option params.Positions
  | .record table => some table
  | _ => none

theorem traverse_eq (points : Bytes) (traversal : Traversal params) :
    params.traverse publicSeed points traversal = (do
      let spans ← params.spans traversal
      let starts ← Bytes.split params.elementSize points
      Hashing.result params.prfHash do
        let masks ← maskingElements params.elementSize publicSeed
        let (values, table) ←
          climbAll masks.toArray publicSeed 0 starts spans (params.tableOf traversal)
        return (values.flatten, table)) := by
  cases traversal <;> rfl

/-- A traversal walks every ladder over its span, and records what the walks reach if it was given
a table. -/
theorem traverse_spec {points : List Bytes} (count : points.length = params.ladders)
    (sized : ∀ point ∈ points, point.length = params.elementSize) (traversal : Traversal params) :
    ∃ after,
      params.traverse publicSeed points.flatten traversal =
        .ok ((params.walks publicSeed points (params.plannedSpans traversal)).flatten, after) ∧
      (params.recordedOnAll publicSeed 0 points (params.plannedSpans traversal)).Turns
        (params.tableOf traversal) after := by
  obtain ⟨after, climbed, recorded⟩ :=
    params.returns_climbAll publicSeed (count.trans (params.length_plannedSpans traversal).symm)
      (Nat.le_of_eq (by rw [Nat.zero_add, count])) (params.plannedSpans_within traversal)
      (params.tableOf traversal)
  refine ⟨after, ?_, recorded⟩
  have starts : Bytes.split params.elementSize points.flatten = .ok points := by
    rw [Bytes.split_of_pos params.elementSize_pos,
      Bytes.chunks_flatten params.elementSize_pos sized]
  rw [traverse_eq, Fault.bind_of_ok _ (params.spans_eq traversal), Fault.bind_of_ok _ starts]
  apply Returns.result
  apply (params.returns_masks publicSeed).andThen
  apply climbed.andThen
  exact Returns.pure _

end Params

end Winternitz
