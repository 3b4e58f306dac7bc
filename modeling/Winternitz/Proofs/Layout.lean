/-
Module: Winternitz.Proofs.Layout
Purpose: How positions and rows share the bytes of a table among them.
Main exports: Table.Covers, Table.exists_covers, Table.covers_unique, Table.PositionFits,
  Table.RowFits, Params.positions_layout
-/
import Winternitz.Ladder.Traversal
import Winternitz.Proofs.Table

namespace Winternitz

/-!
A value that overlapped another one would be wrong only for the messages that have
the digit of its depth.  The positions and rows of a table are therefore described
completely: each can be read and written as a whole, nothing that is written reaches
beyond it, and together they are all of the table.
-/

namespace Table

variable {elementSize ladders depth ladder depth' ladder' place : Nat}

/-! ### Whose byte it is -/

/-- The byte at this place of a table is one of the value of the ladder at the depth. -/
def Covers (elementSize ladders depth ladder place : Nat) : Prop :=
  offset elementSize ladders depth ladder ≤ place ∧
    place < offset elementSize ladders depth ladder + elementSize

/-- Two divisions lead from the place to the position. -/
theorem exists_covers (inside : place < base * ladders * elementSize) :
    ∃ depth ladder, depth < base ∧ ladder < ladders ∧
      Covers elementSize ladders depth ladder place := by
  have whole : 0 < base * ladders * elementSize := Nat.zero_lt_of_lt inside
  have sized : 0 < elementSize := Nat.pos_of_mul_pos_left whole
  have several : 0 < ladders := Nat.pos_of_mul_pos_left (Nat.pos_of_mul_pos_right whole)
  -- `place / elementSize` numbers the values of the table; a row has `ladders` of these numbers.
  have number : place / elementSize < base * ladders :=
    (Nat.div_lt_iff_lt_mul sized).2 inside
  refine ⟨place / elementSize / ladders, place / elementSize % ladders,
    (Nat.div_lt_iff_lt_mul several).2 number, Nat.mod_lt _ several, ?_⟩
  have start : offset elementSize ladders (place / elementSize / ladders)
      (place / elementSize % ladders) = place / elementSize * elementSize := by
    rw [offset, Nat.div_add_mod']
  rw [Covers, start]
  exact ⟨Nat.div_mul_le_self .., Nat.lt_div_mul_add sized⟩

/-- No byte is one of two values. -/
theorem covers_unique (wide : ladder < ladders) (wide' : ladder' < ladders)
    (one : Covers elementSize ladders depth ladder place)
    (other : Covers elementSize ladders depth' ladder' place) :
    depth' = depth ∧ ladder' = ladder := by
  apply Decidable.byContradiction
  intro different
  rcases one with ⟨oneLow, oneHigh⟩
  rcases other with ⟨otherLow, otherHigh⟩
  rcases offset_apart wide wide' different with before | behind
  · exact absurd (Nat.lt_of_lt_of_le otherHigh before) (Nat.not_lt.2 oneLow)
  · exact absurd (Nat.lt_of_lt_of_le oneHigh behind) (Nat.not_lt.2 otherLow)

/-- A byte of the table is found in the value that it is a byte of. -/
theorem getElem?_content (table : Table elementSize ladders)
    (covers : Covers elementSize ladders depth ladder place) :
    table.content[place]? =
      (table.value depth ladder)[place - offset elementSize ladders depth ladder]? := by
  rcases covers with ⟨low, high⟩
  rw [value, List.getElem?_take, if_pos (by omega), List.getElem?_drop, Nat.add_sub_cancel' low]

/-! ### Positions and rows -/

/-- A position lies inside the table and can be read and written on its own. -/
structure PositionFits (table : Table elementSize ladders) (depth ladder : Nat) : Prop where
  inside : offset elementSize ladders depth ladder + elementSize ≤ table.data.size
  read : ∃ value, table.element depth ladder = .ok value ∧ value.length = elementSize
  written : ∀ bytes : Bytes, bytes.length = elementSize → ∃ after,
    table.put depth ladder bytes = .ok after ∧ after.element depth ladder = .ok bytes ∧
      ∀ depth' ladder', depth' < base → ladder' < ladders → (depth', ladder') ≠ (depth, ladder) →
        after.element depth' ladder' = table.element depth' ladder'

theorem positionFits (table : Table elementSize ladders) (deep : depth < base)
    (wide : ladder < ladders) : table.PositionFits depth ladder where
  inside := by
    rw [table.size_eq]
    exact offset_add_le elementSize deep wide
  read := ⟨_, table.element_eq deep wide, table.length_value deep wide⟩
  written bytes sized := by
    obtain ⟨after, put, values⟩ := table.put_spec deep wide sized
    refine ⟨after, put, ?_, ?_⟩
    · rw [after.element_eq deep wide, values depth ladder wide, if_pos ⟨rfl, rfl⟩]
    · intro depth' ladder' deep' wide' different
      rw [Ne, Prod.mk.injEq] at different
      rw [after.element_eq deep' wide', table.element_eq deep' wide', values depth' ladder' wide',
        if_neg different]

/-- The values of all ladders at a depth. -/
def rowValues (table : Table elementSize ladders) (depth : Nat) : List Bytes :=
  (List.range ladders).map (table.value depth)

theorem getElem?_rowValues (table : Table elementSize ladders) (depth : Nat)
    (wide : ladder < ladders) :
    (table.rowValues depth)[ladder]? = some (table.value depth ladder) := by
  rw [rowValues, List.getElem?_map, List.getElem?_range wide, Option.map_some]

theorem length_rowValues (table : Table elementSize ladders) (depth : Nat) :
    (table.rowValues depth).length = ladders := by
  rw [rowValues, List.length_map, List.length_range]

theorem row_eq_rowValues (table : Table elementSize ladders) (deep : depth < base) :
    table.row depth = .ok (table.rowValues depth).flatten :=
  table.row_eq deep

/-- Values that are found in a row, one for each ladder, are all of the row. -/
theorem rowValues_eq {table : Table elementSize ladders} {values : List Bytes}
    (count : values.length = ladders)
    (found : ∀ ladder, ladder < ladders → values[ladder]? = some (table.value depth ladder)) :
    table.rowValues depth = values := by
  apply List.ext_getElem?
  intro ladder
  by_cases wide : ladder < ladders
  · rw [getElem?_rowValues table depth wide, found ladder wide]
  · rw [List.getElem?_eq_none (by rw [length_rowValues]; omega),
      List.getElem?_eq_none (by omega)]

/-- A row consists of the positions at its depth and can be written without the others. -/
structure RowFits (table : Table elementSize ladders) (depth : Nat) : Prop where
  inside : offset elementSize ladders depth 0 + ladders * elementSize ≤ table.data.size
  read : ∃ values : List Bytes, values.length = ladders ∧ table.row depth = .ok values.flatten ∧
    ∀ ladder value, values[ladder]? = some value → table.element depth ladder = .ok value
  written : ∀ bytes : Bytes, bytes.length = ladders * elementSize → ∃ after,
    table.putRow depth bytes = .ok after ∧ after.row depth = .ok bytes ∧
      ∀ depth' ladder', depth' < base → ladder' < ladders → depth' ≠ depth →
        after.element depth' ladder' = table.element depth' ladder'

theorem rowFits (sized : 0 < elementSize) (table : Table elementSize ladders)
    (deep : depth < base) : table.RowFits depth where
  inside := by
    rw [table.size_eq]
    exact offset_add_row_le elementSize ladders deep
  read := by
    refine ⟨table.rowValues depth, table.length_rowValues depth, table.row_eq_rowValues deep, ?_⟩
    intro ladder value found
    have wide : ladder < ladders := by
      rw [← table.length_rowValues depth]
      exact (List.getElem?_eq_some_iff.1 found).1
    rw [getElem?_rowValues table depth wide, Option.some.injEq] at found
    rw [table.element_eq deep wide, found]
  written bytes whole := by
    have count : (Bytes.chunks elementSize bytes).length = ladders :=
      Bytes.length_chunks_of_whole sized whole
    obtain ⟨after, put, values⟩ := table.putRow_spec deep count
      fun _ member => Bytes.length_of_mem_chunks member
    rw [Bytes.flatten_chunks whole] at put
    have filled : after.rowValues depth = Bytes.chunks elementSize bytes :=
      rowValues_eq count fun ladder wide => (values depth ladder wide).1 rfl
    refine ⟨after, put, ?_, ?_⟩
    · rw [after.row_eq_rowValues deep, filled, Bytes.flatten_chunks whole]
    · intro depth' ladder' deep' wide' different
      rw [after.element_eq deep' wide', table.element_eq deep' wide',
        (values depth' ladder' wide').2 different]

end Table

/-- The tables of a key, whatever is in them: every position and every row lies inside the table, is
read as values of the right size, and is written without any change to the others; and every byte of
the table is a byte of exactly one value. -/
theorem Params.positions_layout (params : Params) (table : params.Positions) :
    (∀ depth ladder, depth < 256 → ladder < params.ladders → table.PositionFits depth ladder) ∧
    (∀ depth, depth < 256 → table.RowFits depth) ∧
    (∀ place, place < table.data.size → ∃ depth ladder value, depth < 256 ∧
      ladder < params.ladders ∧
      Table.Covers params.elementSize params.ladders depth ladder place ∧
      table.element depth ladder = .ok value ∧
      table.content[place]? =
        value[place - Table.offset params.elementSize params.ladders depth ladder]? ∧
      ∀ depth' ladder', depth' < 256 → ladder' < params.ladders →
        Table.Covers params.elementSize params.ladders depth' ladder' place →
        depth' = depth ∧ ladder' = ladder) := by
  refine ⟨fun _ _ => table.positionFits, fun _ => table.rowFits params.elementSize_pos, ?_⟩
  intro place inside
  rw [table.size_eq] at inside
  obtain ⟨depth, ladder, deep, wide, covers⟩ := Table.exists_covers inside
  refine ⟨depth, ladder, table.value depth ladder, deep, wide, covers,
    table.element_eq deep wide, table.getElem?_content covers, ?_⟩
  intro depth' ladder' _ wide' covers'
  exact Table.covers_unique wide wide' covers covers'

end Winternitz
