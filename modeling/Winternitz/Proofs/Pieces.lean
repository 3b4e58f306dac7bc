/-
Module: Winternitz.Proofs.Pieces
Purpose: Cutting a byte string into values of one size, and putting such values together.
Main exports: Bytes.pieces_flatten, Bytes.slice_flatten, Bytes.chunks_flatten,
  Bytes.flatten_chunks, Bytes.length_of_mem_chunks, Bytes.flatten_inj
-/
import Winternitz.Fault

namespace Winternitz.Bytes

/-!
Ladder values travel as one byte string: a key writes them one after the other
and a reader cuts them apart again.  With one size for all of them nothing is
lost on the way, in either direction.
-/

variable {size count : Nat} {bytes : Bytes}

/-! ### Values put together and cut apart -/

theorem length_flatten_of_sized {values : List Bytes} (sized : ∀ value ∈ values, value.length = size) :
    values.flatten.length = values.length * size := by
  induction values with
  | nil => simp
  | cons value values ih =>
      have first : value.length = size := sized value (by simp)
      have rest : values.flatten.length = values.length * size :=
        ih fun other member => sized other (by simp [member])
      rw [List.flatten_cons, List.length_append, first, rest, List.length_cons, Nat.succ_mul]
      omega

/-- Values of one size are found again at their places. -/
theorem pieces_flatten {values : List Bytes} (sized : ∀ value ∈ values, value.length = size) :
    pieces size values.length values.flatten = values := by
  induction values with
  | nil => rfl
  | cons value values ih =>
      have first : value.length = size := sized value (by simp)
      have rest : pieces size values.length values.flatten = values :=
        ih fun other member => sized other (by simp [member])
      rw [List.length_cons, List.flatten_cons, pieces, List.take_left' first, List.drop_left' first, rest]

theorem getElem?_pieces {position : Nat} (inside : position < count) (bytes : Bytes) :
    (pieces size count bytes)[position]? = some ((bytes.drop (position * size)).take size) := by
  induction count generalizing bytes position with
  | zero => exact absurd inside (Nat.not_lt_zero _)
  | succ count ih =>
      cases position with
      | zero => simp [pieces]
      | succ position =>
          rw [pieces, List.getElem?_cons_succ, ih (Nat.lt_of_succ_lt_succ inside), List.drop_drop,
            Nat.succ_mul, Nat.add_comm size]

/-- A value stands where the sizes of those before it add up to. -/
theorem getElem?_of_flatten {values : List Bytes} (sized : ∀ value ∈ values, value.length = size)
    {position : Nat} (inside : position < values.length) :
    values[position]? = some ((values.flatten.drop (position * size)).take size) := by
  have cut : (pieces size values.length values.flatten)[position]? = _ :=
    getElem?_pieces inside values.flatten
  rwa [pieces_flatten sized] at cut

/-- So it can be read back from there. -/
theorem slice_flatten {values : List Bytes} (sized : ∀ value ∈ values, value.length = size)
    {position : Nat} {value : Bytes} (place : values[position]? = some value) :
    Bytes.slice values.flatten (position * size) size = .ok value := by
  have inside : position < values.length := (List.getElem?_eq_some_iff.1 place).1
  have fits : position * size + size ≤ values.flatten.length := by
    rw [length_flatten_of_sized sized, ← Nat.succ_mul]
    exact Nat.mul_le_mul_right size inside
  have found := getElem?_of_flatten sized inside
  rw [place, Option.some.injEq] at found
  rw [slice_of_le fits, ← found]

/-- The same for values whose number is read off the length of the whole. -/
theorem chunks_flatten (positive : 0 < size) {values : List Bytes}
    (sized : ∀ value ∈ values, value.length = size) : chunks size values.flatten = values := by
  rw [chunks, length_flatten_of_sized sized, Nat.mul_div_cancel _ positive, pieces_flatten sized]

/-- Two lists of values of one size give the same byte string only if they are the same. -/
theorem flatten_inj (positive : 0 < size) {left right : List Bytes}
    (leftSized : ∀ value ∈ left, value.length = size)
    (rightSized : ∀ value ∈ right, value.length = size)
    (same : left.flatten = right.flatten) : left = right := by
  have cut : chunks size left.flatten = chunks size right.flatten := by rw [same]
  rwa [chunks_flatten positive leftSized, chunks_flatten positive rightSized] at cut

/-! ### A byte string cut apart and put together -/

theorem length_of_mem_pieces {piece : Bytes} (long : count * size ≤ bytes.length)
    (member : piece ∈ pieces size count bytes) : piece.length = size := by
  induction count generalizing bytes with
  | zero => simp [pieces] at member
  | succ count ih =>
      rw [Nat.succ_mul] at long
      rw [pieces, List.mem_cons] at member
      rcases member with rfl | later
      · rw [List.length_take]
        omega
      · exact ih (by rw [List.length_drop]; omega) later

/-- Every chunk has the size asked for. -/
theorem length_of_mem_chunks {piece : Bytes} (member : piece ∈ chunks size bytes) :
    piece.length = size :=
  length_of_mem_pieces (Nat.div_mul_le_self ..) member

/-- A byte string that consists of whole pieces is their concatenation. -/
theorem flatten_chunks (whole : bytes.length = count * size) :
    (chunks size bytes).flatten = bytes := by
  have covered : bytes.length / size * size = bytes.length := by
    apply Nat.div_mul_cancel
    exact ⟨count, whole.trans (Nat.mul_comm count size)⟩
  rw [chunks, flatten_pieces, List.take_of_length_le (Nat.le_of_eq covered.symm)]

theorem length_chunks_of_whole (positive : 0 < size) (whole : bytes.length = count * size) :
    (chunks size bytes).length = count := by
  rw [length_chunks, whole, Nat.mul_div_cancel _ positive]

end Winternitz.Bytes
