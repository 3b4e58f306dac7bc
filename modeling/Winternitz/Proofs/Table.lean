/-
Module: Winternitz.Proofs.Table
Purpose: What reading and writing do to the positions in a table.
Main exports: Table.content, Table.value, Table.element_eq, Table.put_spec, Table.row_eq,
  Table.putRow_spec
-/
import Winternitz.Ladder.Table
import Winternitz.Proofs.Pieces

namespace Winternitz

/-!
The table is one byte string.  A position is a piece of it whose start is
computed from depth and ladder; that two positions never overlap and none
reaches past the end is arithmetic on these starts.  Everything else then follows
from what overwriting a part of a byte string does to the rest.
-/

namespace Bytes

variable {whole part : Bytes} {start count other : Nat}

/-- The bytes from `start` on replaced by as many others. -/
def splice (whole : Bytes) (start : Nat) (part : Bytes) : Bytes :=
  whole.take start ++ part ++ whole.drop (start + part.length)

theorem getElem?_splice (fits : start + part.length ≤ whole.length) (position : Nat) :
    (whole.splice start part)[position]? =
      if start ≤ position ∧ position < start + part.length then part[position - start]?
      else whole[position]? := by
  have before : (whole.take start).length = start := by
    rw [List.length_take]
    omega
  rw [splice, List.append_assoc, List.getElem?_append, before]
  by_cases left : position < start
  · rw [if_pos left, if_neg (by omega), List.getElem?_take, if_pos left]
  · rw [if_neg left, List.getElem?_append]
    by_cases inside : position < start + part.length
    · rw [if_pos (by omega), if_pos (by omega)]
    · rw [if_neg (by omega), if_neg (by omega), List.getElem?_drop]
      congr 1
      omega

/-- A first byte may be put in place before the others. -/
theorem splice_cons {byte : UInt8} (fits : start + (part.length + 1) ≤ whole.length) :
    whole.splice start (byte :: part) = splice (whole.set start byte) (start + 1) part := by
  have fitsCons : start + (byte :: part).length ≤ whole.length := fits
  have fitsRest : start + 1 + part.length ≤ (whole.set start byte).length := by
    rw [List.length_set]
    omega
  apply List.ext_getElem?
  intro position
  rw [getElem?_splice fitsCons, getElem?_splice fitsRest, List.length_cons]
  by_cases first : position = start
  · subst first
    rw [if_pos (by omega), if_neg (by omega), Nat.sub_self, List.getElem?_set_self (by omega)]
    rfl
  · by_cases later : start + 1 ≤ position ∧ position < start + 1 + part.length
    · have shift : position - start = position - (start + 1) + 1 := by omega
      rw [if_pos later, if_pos (by omega), shift, List.getElem?_cons_succ]
    · rw [if_neg later, if_neg (by omega), List.getElem?_set_ne (Ne.symm first)]

/-- What was put in is found there, and so is every part of it. -/
theorem cut_splice_inside (fits : start + part.length ≤ whole.length) (after : start ≤ other)
    (within : other + count ≤ start + part.length) :
    ((whole.splice start part).drop other).take count = (part.drop (other - start)).take count := by
  apply List.ext_getElem?
  intro position
  rw [List.getElem?_take, List.getElem?_take, List.getElem?_drop, List.getElem?_drop,
    getElem?_splice fits]
  by_cases inside : position < count
  · rw [if_pos inside, if_pos inside, if_pos (by omega)]
    congr 1
    omega
  · rw [if_neg inside, if_neg inside]

/-- Everything that does not overlap with it stays. -/
theorem cut_splice_apart (fits : start + part.length ≤ whole.length)
    (apart : other + count ≤ start ∨ start + part.length ≤ other) :
    ((whole.splice start part).drop other).take count = (whole.drop other).take count := by
  apply List.ext_getElem?
  intro position
  rw [List.getElem?_take, List.getElem?_take, List.getElem?_drop, List.getElem?_drop,
    getElem?_splice fits]
  by_cases inside : position < count
  · rw [if_pos inside, if_pos inside, if_neg (by omega)]
  · rw [if_neg inside, if_neg inside]

end Bytes

namespace Table

variable {elementSize ladders : Nat}

/-! ### The table as one byte string -/

/-- All bytes of a table in order. -/
def content (table : Table elementSize ladders) : Bytes := table.data.data.toList

theorem length_content (table : Table elementSize ladders) :
    table.content.length = base * ladders * elementSize := by
  rw [content, Array.length_toList]
  exact table.size_eq

theorem toList_overwrite (data : ByteArray) (start : Nat) (bytes : Bytes)
    (fits : start + bytes.length ≤ data.data.toList.length) :
    (overwrite data start bytes).data.toList = Bytes.splice data.data.toList start bytes := by
  induction bytes generalizing data start with
  | nil => simp [overwrite, Bytes.splice]
  | cons byte rest ih =>
      have written : (data.set! start byte).data.toList = data.data.toList.set start byte :=
        Array.toList_set!
      rw [List.length_cons] at fits
      rw [Bytes.splice_cons fits, overwrite, ih, written]
      rw [written, List.length_set]
      omega

theorem read_of_le (table : Table elementSize ladders) {start count : Nat}
    (fits : start + count ≤ base * ladders * elementSize) :
    table.read start count = .ok ((table.content.drop start).take count) := by
  have inside : start + count ≤ table.data.size := by
    rw [table.size_eq]
    exact fits
  rw [read, if_pos inside, ByteArray.data_extract, Array.toList_extract, content]
  rw [List.extract_eq_take_drop, Nat.add_sub_cancel_left]

theorem write_of_le (table : Table elementSize ladders) {start count : Nat} {bytes : Bytes}
    (fits : start + count ≤ base * ladders * elementSize) (length : bytes.length = count) :
    ∃ after, table.write start count bytes = .ok after ∧
      after.content = table.content.splice start bytes := by
  have inside : ¬ table.data.size < start + count := by
    rw [table.size_eq]
    omega
  refine ⟨⟨overwrite table.data start bytes, (size_overwrite ..).trans table.size_eq⟩, ?_, ?_⟩
  · rw [write, if_neg inside, if_pos length]
  · apply toList_overwrite
    rw [length]
    exact Nat.le_trans fits (Nat.le_of_eq table.length_content.symm)

/-! ### Positions -/

/-- The value of a ladder at a depth. -/
def value (table : Table elementSize ladders) (depth ladder : Nat) : Bytes :=
  (table.content.drop (offset elementSize ladders depth ladder)).take elementSize

variable {depth ladder depth' ladder' : Nat}

/-- Every position ends before the end of the table. -/
theorem offset_add_le (elementSize : Nat) (deep : depth < base) (wide : ladder < ladders) :
    offset elementSize ladders depth ladder + elementSize ≤ base * ladders * elementSize := by
  have row : (depth + 1) * ladders ≤ base * ladders := Nat.mul_le_mul_right _ deep
  have place : depth * ladders + ladder + 1 ≤ base * ladders := by
    rw [Nat.succ_mul] at row
    omega
  have scaled := Nat.mul_le_mul_right elementSize place
  rw [Nat.succ_mul] at scaled
  exact scaled

/-- Different positions have different places in the order of the table. -/
theorem place_inj (wide : ladder < ladders) (wide' : ladder' < ladders)
    (same : depth * ladders + ladder = depth' * ladders + ladder') :
    depth = depth' ∧ ladder = ladder' := by
  have positive : 0 < ladders := Nat.lt_of_le_of_lt (Nat.zero_le _) wide
  have depths : depth = depth' := by
    have quotients := congrArg (· / ladders) same
    simpa only [Nat.mul_comm _ ladders, Nat.mul_add_div positive, Nat.div_eq_of_lt wide,
      Nat.div_eq_of_lt wide', Nat.add_zero] using quotients
  subst depths
  exact ⟨rfl, Nat.add_left_cancel same⟩

/-- Different positions do not overlap. -/
theorem offset_apart (wide : ladder < ladders) (wide' : ladder' < ladders)
    (different : ¬ (depth' = depth ∧ ladder' = ladder)) :
    offset elementSize ladders depth' ladder' + elementSize ≤
        offset elementSize ladders depth ladder ∨
      offset elementSize ladders depth ladder + elementSize ≤
        offset elementSize ladders depth' ladder' := by
  have places : depth' * ladders + ladder' ≠ depth * ladders + ladder :=
    fun same => different (place_inj wide' wide same)
  rcases Nat.lt_or_gt_of_ne places with before | after
  · left
    have scaled := Nat.mul_le_mul_right elementSize before
    rwa [Nat.succ_mul] at scaled
  · right
    have scaled := Nat.mul_le_mul_right elementSize after
    rwa [Nat.succ_mul] at scaled

theorem length_value (table : Table elementSize ladders) (deep : depth < base)
    (wide : ladder < ladders) : (table.value depth ladder).length = elementSize := by
  have inside := offset_add_le elementSize deep wide
  rw [value, List.length_take, List.length_drop, length_content]
  omega

/-- Every position can be read. -/
theorem element_eq (table : Table elementSize ladders) (deep : depth < base)
    (wide : ladder < ladders) : table.element depth ladder = .ok (table.value depth ladder) :=
  table.read_of_le (offset_add_le elementSize deep wide)

/-- A value put at a position is found there, and no other position changes. -/
theorem put_spec (table : Table elementSize ladders) {bytes : Bytes} (deep : depth < base)
    (wide : ladder < ladders) (length : bytes.length = elementSize) :
    ∃ after, table.put depth ladder bytes = .ok after ∧
      ∀ depth' ladder', ladder' < ladders →
        after.value depth' ladder' =
          if depth' = depth ∧ ladder' = ladder then bytes else table.value depth' ladder' := by
  have fits := offset_add_le elementSize deep wide
  obtain ⟨after, put, content⟩ := table.write_of_le fits length
  refine ⟨after, put, ?_⟩
  intro depth' ladder' wide'
  have spliceFits :
      offset elementSize ladders depth ladder + bytes.length ≤ table.content.length := by
    rw [length, length_content]
    exact fits
  rw [value, content]
  by_cases here : depth' = depth ∧ ladder' = ladder
  · rw [if_pos here, here.1, here.2]
    rw [Bytes.cut_splice_inside spliceFits (Nat.le_refl _) (by omega), Nat.sub_self, List.drop_zero]
    exact List.take_of_length_le (Nat.le_of_eq length)
  · rw [if_neg here]
    apply Bytes.cut_splice_apart spliceFits
    rw [length]
    exact offset_apart wide wide' here

/-! ### Rows -/

theorem offset_row (depth ladder : Nat) :
    offset elementSize ladders depth ladder =
      offset elementSize ladders depth 0 + ladder * elementSize := by
  rw [offset, offset, Nat.add_zero, Nat.add_mul]

/-- Every row ends before the end of the table. -/
theorem offset_add_row_le (elementSize ladders : Nat) (deep : depth < base) :
    offset elementSize ladders depth 0 + ladders * elementSize ≤ base * ladders * elementSize := by
  rw [← offset_row, offset, ← Nat.succ_mul]
  exact Nat.mul_le_mul_right _ (Nat.mul_le_mul_right _ deep)

/-- The positions of a depth fill one row. -/
theorem row_within (elementSize depth : Nat) (wide : ladder < ladders) :
    offset elementSize ladders depth 0 ≤ offset elementSize ladders depth ladder ∧
      offset elementSize ladders depth ladder + elementSize ≤
        offset elementSize ladders depth 0 + ladders * elementSize := by
  have place := Nat.mul_le_mul_right elementSize (Nat.succ_le_of_lt wide)
  rw [Nat.succ_mul] at place
  rw [offset_row depth ladder]
  omega

/-- The rows of different depths do not overlap. -/
theorem row_apart (wide : ladder' < ladders) (different : depth' ≠ depth) :
    offset elementSize ladders depth' ladder' + elementSize ≤ offset elementSize ladders depth 0 ∨
      offset elementSize ladders depth 0 + ladders * elementSize ≤
        offset elementSize ladders depth' ladder' := by
  have next (lower : Nat) : offset elementSize ladders lower 0 + ladders * elementSize =
      offset elementSize ladders (lower + 1) 0 := by
    rw [← offset_row, offset, offset, Nat.add_zero, Nat.succ_mul]
  have ordered {lower upper : Nat} (below : lower ≤ upper) :
      offset elementSize ladders lower 0 ≤ offset elementSize ladders upper 0 :=
    Nat.mul_le_mul_right _ (Nat.add_le_add_right (Nat.mul_le_mul_right _ below) _)
  rcases row_within elementSize depth' wide with ⟨low, high⟩
  rcases Nat.lt_or_gt_of_ne different with before | behind
  · left
    exact Nat.le_trans high (next depth' ▸ ordered before)
  · right
    exact Nat.le_trans (next depth ▸ ordered behind) low

/-- A row is the values of all ladders at its depth, one after the other. -/
theorem row_eq (table : Table elementSize ladders) (deep : depth < base) :
    table.row depth = .ok ((List.range ladders).map (table.value depth)).flatten := by
  have rowEnd := offset_add_row_le elementSize ladders deep
  have cut : Bytes.pieces elementSize ladders
      (table.content.drop (offset elementSize ladders depth 0)) =
        (List.range ladders).map (table.value depth) := by
    apply List.ext_getElem?
    intro ladder
    by_cases wide : ladder < ladders
    · rw [Bytes.getElem?_pieces wide, List.getElem?_map, List.getElem?_range wide, List.drop_drop,
        ← offset_row]
      rfl
    · rw [List.getElem?_eq_none (by simpa using wide), List.getElem?_eq_none (by simpa using wide)]
  rw [row, table.read_of_le rowEnd, ← cut, Bytes.flatten_pieces]

/-- The values of a row, given one after the other, are found at its positions, and no other row
changes. -/
theorem putRow_spec (table : Table elementSize ladders) {values : List Bytes} (deep : depth < base)
    (count : values.length = ladders) (sized : ∀ value ∈ values, value.length = elementSize) :
    ∃ after, table.putRow depth values.flatten = .ok after ∧
      ∀ depth' ladder', ladder' < ladders →
        (depth' = depth → values[ladder']? = some (after.value depth' ladder')) ∧
        (depth' ≠ depth → after.value depth' ladder' = table.value depth' ladder') := by
  have length : values.flatten.length = ladders * elementSize := by
    rw [Bytes.length_flatten_of_sized sized, count]
  have rowEnd := offset_add_row_le elementSize ladders deep
  obtain ⟨after, put, content⟩ := table.write_of_le rowEnd length
  have fits : offset elementSize ladders depth 0 + values.flatten.length ≤ table.content.length := by
    rw [length, length_content]
    exact rowEnd
  refine ⟨after, put, ?_⟩
  intro depth' ladder' wide'
  rw [value, content]
  constructor
  · intro here
    subst here
    rcases row_within elementSize depth' wide' with ⟨low, high⟩
    rw [Bytes.getElem?_of_flatten sized (count.symm ▸ wide'),
      Bytes.cut_splice_inside fits low (length.symm ▸ high), offset_row depth' ladder',
      Nat.add_sub_cancel_left]
  · intro elsewhere
    apply Bytes.cut_splice_apart fits
    rw [length]
    exact row_apart wide' elsewhere

end Table

end Winternitz
