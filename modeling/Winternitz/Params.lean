/-
Module: Winternitz.Params
Purpose: Parameter sets, and the sizes that follow from them.
Main exports: Params, Params.ladders, Params.bodySize, Params.signatureSize, Params.equal,
  Params.display
-/
import Winternitz.Hash.Family
import Winternitz.Outline

namespace Winternitz

/-! ### Fixed sizes -/

/-- The Winternitz base: every byte is one digit, so a ladder has this many positions. -/
def base : Nat := 256

def seedSize : Nat := 32

/-- The hash of the tweak and of the public key. -/
def publicKeyHash : HashFamily := .sha3_256

def publicKeySize : Nat := 32

/-- The longest digest that is signed.  With two checksum digits there are at
most 256 ladders, so a ladder's number also fits into a byte. -/
def maxMessageSize : Nat := 254

/-! ### Parameter sets -/

/-- A parameter set: the size of the values on a ladder, the number of digest
bytes that are signed, and the two hashes, which must give that many bytes. -/
structure Params where
  elementSize : Nat
  messageSize : Nat
  prfHash : HashFamily
  messageHash : HashFamily
  elementSize_pos : 0 < elementSize
  messageSize_pos : 0 < messageSize
  messageSize_le : messageSize ≤ maxMessageSize
  elementSize_fits : elementSize ≤ prfHash.size
  messageSize_fits : messageSize ≤ messageHash.size
deriving DecidableEq

namespace Params

/-- The number of checksum digits: the checksum of a single byte is a single byte. -/
def checksumSize (params : Params) : Nat := if params.messageSize = 1 then 1 else 2

/-- The number of ladders, one for each digit of a signed digest and its checksum. -/
def ladders (params : Params) : Nat := params.messageSize + params.checksumSize

/-- The size of a signature without its tag: the public seed and one value of every ladder. -/
def bodySize (params : Params) : Nat := seedSize + params.ladders * params.elementSize

def signatureSize (params : Params) : Nat := 1 + params.bodySize

theorem ladders_pos (params : Params) : 0 < params.ladders :=
  Nat.lt_of_lt_of_le params.messageSize_pos (Nat.le_add_right ..)

/-- A ladder's number always fits into a byte. -/
theorem ladders_le (params : Params) : params.ladders ≤ base := by
  have bound := params.messageSize_le
  unfold ladders checksumSize
  unfold maxMessageSize at bound
  unfold base
  split <;> omega

/-- Two sets are the same if their two sizes and two hashes are. -/
theorem ext_of_fields {left right : Params} (element : left.elementSize = right.elementSize)
    (message : left.messageSize = right.messageSize) (prf : left.prfHash = right.prfHash)
    (digest : left.messageHash = right.messageHash) : left = right := by
  cases left
  cases right
  simp_all

/-- Whether two sets agree in everything that is kept of them, the number of ladders included. -/
def equal (left right : Params) : Bool :=
  left.elementSize == right.elementSize && left.messageSize == right.messageSize &&
    left.prfHash == right.prfHash && left.messageHash == right.messageHash &&
    left.ladders == right.ladders

/-- The number of ladders follows from the rest, so it never tells two sets apart. -/
theorem equal_iff {left right : Params} : left.equal right = true ↔ left = right := by
  constructor
  · intro same
    simp only [equal, Bool.and_eq_true, beq_iff_eq] at same
    obtain ⟨⟨⟨⟨element, message⟩, prf⟩, digest⟩, -⟩ := same
    exact ext_of_fields element message prf digest
  · rintro rfl
    simp [equal]

/-! ### Text -/

def display (params : Params) : String :=
  s!"N: {params.elementSize}, M: {params.messageSize}, PRF: {params.prfHash.name}, " ++
    s!"MSG: {params.messageHash.name}"

def outline (params : Params) : Outline :=
  .record "Params"
    [("n", .number params.elementSize), ("m", .number params.messageSize),
     ("prf_hash", .atom params.prfHash.identifier), ("msg_hash", .atom params.messageHash.identifier),
     ("total", .number params.ladders)]
    false

end Params

end Winternitz
