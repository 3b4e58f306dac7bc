/-
Module: Winternitz.Level
Purpose: The named parameter sets and their tags.
Main exports: Level, Level.params, Level.tag, Level.ofTag, Level.ofParams?
-/
import Winternitz.Params.Validation

namespace Winternitz

/-- The named parameter sets.  Transactions are never signed at the consensus level. -/
inductive Level where
  | level0
  | level1
  | level2
  | level3
  | consensus
deriving DecidableEq, Repr

namespace Level

/-- All levels, each at the position of its tag. -/
def all : List Level := [level0, level1, level2, level3, consensus]

def default : Level := level0

/-- The tag of parameter sets without a name.  It is no level's tag, so that
their signatures are never taken for those of a level. -/
def unnamedTag : UInt8 := 5

/-- The byte that stands for a level at the head of a signature. -/
def tag : Level → UInt8
  | level0 => 0
  | level1 => 1
  | level2 => 2
  | level3 => 3
  | consensus => 4

def name : Level → String
  | level0 => "Level0"
  | level1 => "Level1"
  | level2 => "Level2"
  | level3 => "Level3"
  | consensus => "Consensus"

/-- The parameter set for transactions with ladder values of the given size. -/
def walletParams (elementSize : Nat) (positive : 0 < elementSize)
    (fits : elementSize ≤ HashFamily.blake2b_256.size) : Params where
  elementSize := elementSize
  messageSize := 24
  prfHash := .blake2b_256
  messageHash := .sha3_224
  elementSize_pos := positive
  messageSize_pos := by decide
  messageSize_le := by decide
  elementSize_fits := fits
  messageSize_fits := by decide

def consensusParams : Params where
  elementSize := 32
  messageSize := 32
  prfHash := .blake2b_256
  messageHash := .sha3_256
  elementSize_pos := by decide
  messageSize_pos := by decide
  messageSize_le := by decide
  elementSize_fits := by decide
  messageSize_fits := by decide

def params : Level → Params
  | level0 => walletParams 20 (by decide) (by decide)
  | level1 => walletParams 24 (by decide) (by decide)
  | level2 => walletParams 28 (by decide) (by decide)
  | level3 => walletParams 32 (by decide) (by decide)
  | consensus => consensusParams

def ofTag (tag : UInt8) : Except Error Level :=
  match all[tag.toNat]? with
  | some level => .ok level
  | none => .error (.unknownEncoding tag)

/-- The level that has exactly these parameters. -/
def ofParams? (params : Params) : Option Level :=
  all.find? fun level => level.params = params

/-- The tag at the head of signatures made with a parameter set. -/
def tagOf (params : Params) : UInt8 :=
  match ofParams? params with
  | some level => level.tag
  | none => unnamedTag

end Level

end Winternitz
