/-
Module: Winternitz.Proofs.LadderWalks
Purpose: What a traversal gives for each ladder on its own.
Main exports: Params.valueAt, Params.HoldsWalks, Params.holdsWalks_walked, Params.traverse_modes
-/
import Winternitz.Proofs.Traversal

namespace Winternitz.Params

/-!
The four traversals differ in where each walk starts and stops, and in nothing
else.  Here their results are read ladder by ladder: each ladder has its own
place in the points and in the result, and what stands there depends on no
other ladder.
-/

variable (params : Params) (publicSeed : Bytes)

/-! ### Values at their places -/

/-- The value of a ladder in a byte string that has one value for each ladder in order. -/
def valueAt (values : Bytes) (ladder : Nat) : Bytes :=
  (values.drop (ladder * params.elementSize)).take params.elementSize

theorem valueAt_flatten {values : List Bytes} {value : Bytes} {ladder : Nat}
    (sized : ∀ value ∈ values, value.length = params.elementSize)
    (atLadder : values[ladder]? = some value) : params.valueAt values.flatten ladder = value := by
  rcases List.getElem?_eq_some_iff.1 atLadder with ⟨inside, -⟩
  rw [Bytes.getElem?_of_flatten sized inside] at atLadder
  exact Option.some.inj atLadder

/-- The byte string `output` has one value for each ladder in order: where a walk from that
ladder's value in `points` over that ladder's span ends.  No ladder is left out. -/
structure HoldsWalks (points : Bytes) (spans : List Span) (output : Bytes) : Prop where
  aligned : spans.length = params.ladders
  length_eq : output.length = params.ladders * params.elementSize
  valueAt_eq : ∀ {ladder : Nat} {span : Span}, spans[ladder]? = some span →
    params.valueAt output ladder =
      params.walk publicSeed (span.last - span.first) span.first (params.valueAt points ladder)

/-! ### Points in one byte string -/

/-- The points of all ladders, cut apart. -/
def starts (points : Bytes) : List Bytes := Bytes.chunks params.elementSize points

theorem starts_sized (points : Bytes) :
    ∀ start ∈ params.starts points, start.length = params.elementSize :=
  fun _ member => Bytes.length_of_mem_chunks member

variable {points : Bytes}

theorem length_starts (whole : points.length = params.ladders * params.elementSize) :
    (params.starts points).length = params.ladders :=
  Bytes.length_chunks_of_whole params.elementSize_pos whole

theorem flatten_starts (whole : points.length = params.ladders * params.elementSize) :
    (params.starts points).flatten = points :=
  Bytes.flatten_chunks whole

theorem getElem?_starts (whole : points.length = params.ladders * params.elementSize) {ladder : Nat}
    (wide : ladder < params.ladders) :
    (params.starts points)[ladder]? = some (params.valueAt points ladder) := by
  have inside : ladder < (params.starts points).length := by
    rw [params.length_starts whole]
    exact wide
  have found := Bytes.getElem?_of_flatten (params.starts_sized points) inside
  rwa [params.flatten_starts whole] at found

/-- The ends of the walks over these spans, one after the other. -/
def walked (points : Bytes) (spans : List Span) : Bytes :=
  (params.walks publicSeed (params.starts points) spans).flatten

/-- Walks done one after the other leave each ladder's end at that ladder's place. -/
theorem holdsWalks_walked (whole : points.length = params.ladders * params.elementSize)
    {spans : List Span} (aligned : spans.length = params.ladders) :
    params.HoldsWalks publicSeed points spans (params.walked publicSeed points spans) := by
  have sized : ∀ value ∈ params.walks publicSeed (params.starts points) spans,
      value.length = params.elementSize := by
    intro value member
    rcases List.mem_iff_getElem?.1 member with ⟨ladder, found⟩
    rcases List.getElem?_zipWith_eq_some.1 found with ⟨start, span, atStart, -, rfl⟩
    apply params.length_walk
    exact params.starts_sized points start (List.mem_of_getElem? atStart)
  constructor
  · exact aligned
  · rw [walked, Bytes.length_flatten_of_sized sized, walks, List.length_zipWith,
      params.length_starts whole, aligned, Nat.min_self]
  · intro ladder span atSpan
    rcases List.getElem?_eq_some_iff.1 atSpan with ⟨inside, -⟩
    have atStart := params.getElem?_starts whole (aligned ▸ inside)
    apply params.valueAt_flatten sized
    exact List.getElem?_zipWith_eq_some.2 ⟨_, span, atStart, atSpan, rfl⟩

/-! ### The four traversals -/

theorem traverse_walked (whole : points.length = params.ladders * params.elementSize)
    (traversal : Traversal params) :
    ∃ after, params.traverse publicSeed points traversal =
        .ok (params.walked publicSeed points (params.plannedSpans traversal), after) ∧
      (params.recordedOnAll publicSeed 0 (params.starts points)
        (params.plannedSpans traversal)).Turns (params.tableOf traversal) after := by
  have spec := params.traverse_spec publicSeed (params.length_starts whole)
    (params.starts_sized points) traversal
  rwa [params.flatten_starts whole] at spec

/-- A traversal without a table gives no table back. -/
theorem traverse_untabled (whole : points.length = params.ladders * params.elementSize)
    {traversal : Traversal params} (untabled : params.tableOf traversal = none) :
    params.traverse publicSeed points traversal =
      .ok (params.walked publicSeed points (params.plannedSpans traversal), none) := by
  obtain ⟨after, traversed, recorded⟩ := params.traverse_walked publicSeed whole traversal
  rw [untabled] at recorded
  cases recorded
  exact traversed

/-- Recording fills every row but the first with the values reached on the way. -/
theorem traverse_record (whole : points.length = params.ladders * params.elementSize)
    (table : params.Positions) :
    ∃ recorded, params.traverse publicSeed points (.record table) =
        .ok (params.walked publicSeed points (List.replicate params.ladders ⟨0, ladderSteps⟩),
          some recorded) ∧
      (∀ depth ladder, 0 < depth → depth ≤ ladderSteps → ladder < params.ladders →
        recorded.value depth ladder = params.walk publicSeed depth 0 (params.valueAt points ladder)) ∧
      recorded.row 0 = table.row 0 := by
  obtain ⟨_, traversed, recorded, rfl, values⟩ :=
    params.traverse_walked publicSeed whole (.record table)
  refine ⟨recorded, traversed, ?_, ?_⟩
  · intro depth ladder positive high wide
    have atStart := params.getElem?_starts whole wide
    rw [values depth ladder wide, plannedSpans, params.recordedOnAll_whole publicSeed atStart wide,
      if_pos ⟨positive, high⟩, Option.getD_some]
  · -- No walk comes back to the first row.
    have kept : ∀ ladder ∈ List.range params.ladders, recorded.value 0 ladder = table.value 0 ladder := by
      intro ladder member
      have wide : ladder < params.ladders := List.mem_range.1 member
      have atStart := params.getElem?_starts whole wide
      rw [values 0 ladder wide, plannedSpans, params.recordedOnAll_whole publicSeed atStart wide]
      rfl
    rw [recorded.row_eq (by decide), table.row_eq (by decide), List.map_congr_left kept]

/-- All four traversals are one recursion over different spans: from the first position to the
last one, up to the digit of the message, or from the digit on.  The traversal that records leaves
every position that it passes in the table, and the first row alone. -/
theorem traverse_modes (whole : points.length = params.ladders * params.elementSize)
    (message : Bytes) (table : params.Positions) :
    ∃ digits ends recorded revealed claimed,
      params.computeDigits message = .ok digits ∧
      params.traverse publicSeed points .full = .ok (ends, none) ∧
      params.traverse publicSeed points (.record table) = .ok (ends, some recorded) ∧
      params.traverse publicSeed points (.sign message) = .ok (revealed, none) ∧
      params.traverse publicSeed points (.decode message) = .ok (claimed, none) ∧
      params.HoldsWalks publicSeed points (List.replicate params.ladders ⟨0, 255⟩) ends ∧
      params.HoldsWalks publicSeed points (digits.map fun digit => ⟨0, digit.toNat⟩) revealed ∧
      params.HoldsWalks publicSeed points (digits.map fun digit => ⟨digit.toNat, 255⟩) claimed ∧
      (∀ depth ladder, 0 < depth → depth ≤ 255 → ladder < params.ladders →
        recorded.element depth ladder =
          .ok (params.walk publicSeed depth 0 (params.valueAt points ladder))) ∧
      recorded.row 0 = table.row 0 := by
  obtain ⟨recorded, recording, values, firstRow⟩ := params.traverse_record publicSeed whole table
  have holds (traversal : Traversal params) :
      params.HoldsWalks publicSeed points (params.plannedSpans traversal)
        (params.walked publicSeed points (params.plannedSpans traversal)) :=
    params.holdsWalks_walked publicSeed whole (params.length_plannedSpans traversal)
  refine ⟨params.digits message, _, recorded, _, _, params.computeDigits_eq message,
    params.traverse_untabled publicSeed whole rfl, recording,
    params.traverse_untabled publicSeed whole rfl, params.traverse_untabled publicSeed whole rfl,
    holds .full, holds (.sign message), holds (.decode message), ?_, firstRow⟩
  intro depth ladder positive high wide
  rw [recorded.element_eq (Nat.lt_succ_of_le high) wide, values depth ladder positive high wide]

/-- The smallest parameter set: single bytes on two ladders, one of them for the checksum. -/
def smallest : Params where
  elementSize := 1
  messageSize := 1
  prfHash := .sha2_256
  messageHash := .sha2_256
  elementSize_pos := by decide
  messageSize_pos := by decide
  messageSize_le := by decide
  elementSize_fits := by decide
  messageSize_fits := by decide

/-- Two ladders of single bytes: the table ends where the full traversal does. -/
theorem traverse_modes_smallest :
    ([3, 4] : Bytes).length = smallest.ladders * smallest.elementSize ∧
    ∃ ends recorded,
      smallest.traverse (List.replicate 32 0) [3, 4] .full = .ok (ends, none) ∧
      smallest.traverse (List.replicate 32 0) [3, 4] (.record (Table.empty _ _)) =
        .ok (ends, some recorded) ∧
      smallest.valueAt ends 1 = smallest.walk (List.replicate 32 0) 255 0 [4] ∧
      recorded.element 255 1 = .ok (smallest.walk (List.replicate 32 0) 255 0 [4]) := by
  have whole : ([3, 4] : Bytes).length = smallest.ladders * smallest.elementSize := by decide
  obtain ⟨digits, ends, recorded, revealed, claimed, -, full, recording, -, -, holds, -, -, table, -⟩ :=
    traverse_modes smallest (List.replicate 32 0) whole [] (Table.empty _ _)
  refine ⟨whole, ends, recorded, full, recording, ?_, ?_⟩
  · have atSpan : (List.replicate smallest.ladders (⟨0, 255⟩ : Span))[1]? = some ⟨0, 255⟩ := rfl
    exact holds.valueAt_eq atSpan
  · exact table 255 1 (by decide) (by decide) (by decide)

end Winternitz.Params
