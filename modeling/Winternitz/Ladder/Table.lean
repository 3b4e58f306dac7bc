/-
Module: Winternitz.Ladder.Table
Purpose: A flat table of all positions of all ladders.
Main exports: Table, Table.empty, Table.element, Table.put, Table.putRow
-/
import Winternitz.Fault
import Winternitz.Params

namespace Winternitz

/-!
The table holds one row per depth, and in it one value per ladder, all of one
size and without gaps.  Row 0 holds the secret elements and the last row the
ladder ends.
-/

/-- A table of positions for ladders with values of one size. -/
structure Table (elementSize ladders : Nat) where
  data : ByteArray
  size_eq : data.size = base * ladders * elementSize

namespace Table

variable {elementSize ladders : Nat}

/-- Replaces bytes from a position on. -/
def overwrite (data : ByteArray) (start : Nat) : Bytes → ByteArray
  | [] => data
  | byte :: rest => overwrite (data.set! start byte) (start + 1) rest

@[simp] theorem size_overwrite (data : ByteArray) (start : Nat) (bytes : Bytes) :
    (overwrite data start bytes).size = data.size := by
  induction bytes generalizing data start with
  | nil => rfl
  | cons byte rest ih => simp [overwrite, ih]

def zeros : Nat → ByteArray → ByteArray
  | 0, data => data
  | count + 1, data => zeros count (data.push 0)

theorem size_zeros (count : Nat) (data : ByteArray) :
    (zeros count data).size = data.size + count := by
  induction count generalizing data with
  | zero => rfl
  | succ count ih => rw [zeros, ih, ByteArray.size_push]; omega

def empty (elementSize ladders : Nat) : Table elementSize ladders where
  data := zeros (base * ladders * elementSize)
    (ByteArray.emptyWithCapacity (base * ladders * elementSize))
  size_eq := by rw [size_zeros]; exact Nat.zero_add _

/-- Where the value of a ladder at a depth starts. -/
def offset (elementSize ladders depth ladder : Nat) : Nat :=
  (depth * ladders + ladder) * elementSize

/-- Reads `count` bytes from a position on. -/
def read (table : Table elementSize ladders) (start count : Nat) : Except Fault Bytes :=
  if start + count ≤ table.data.size then
    .ok (table.data.extract start (start + count)).data.toList
  else
    .error (.outOfRange (start + count) table.data.size)

/-- Puts exactly `count` bytes in place of those from a position on. -/
def write (table : Table elementSize ladders) (start count : Nat) (bytes : Bytes) :
    Except Fault (Table elementSize ladders) :=
  if table.data.size < start + count then
    .error (.outOfRange (start + count) table.data.size)
  else if bytes.length = count then
    .ok ⟨overwrite table.data start bytes, (size_overwrite ..).trans table.size_eq⟩
  else
    .error (.lengthMismatch count bytes.length)

def element (table : Table elementSize ladders) (depth ladder : Nat) : Except Fault Bytes :=
  table.read (offset elementSize ladders depth ladder) elementSize

def put (table : Table elementSize ladders) (depth ladder : Nat) (value : Bytes) :
    Except Fault (Table elementSize ladders) :=
  table.write (offset elementSize ladders depth ladder) elementSize value

/-- The values of all ladders at a depth, one after the other. -/
def row (table : Table elementSize ladders) (depth : Nat) : Except Fault Bytes :=
  table.read (offset elementSize ladders depth 0) (ladders * elementSize)

/-- Records the values of all ladders at a depth. -/
def putRow (table : Table elementSize ladders) (depth : Nat) (values : Bytes) :
    Except Fault (Table elementSize ladders) :=
  table.write (offset elementSize ladders depth 0) (ladders * elementSize) values

end Table

end Winternitz
