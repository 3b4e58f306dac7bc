/-
Module: Winternitz.Error
Purpose: Why a request is refused, and the wording of each refusal.
Main exports: RandomError, Error, Error.message, Error.outline
-/
import Winternitz.Params

namespace Winternitz

/-- A byte source that gave up, with its own account of the reason. -/
structure RandomError where
  reason : String
deriving DecidableEq, Repr

def RandomError.message (error : RandomError) : String :=
  s!"Random source failure: {error.reason}"

inductive SeedRole where
  | secretSeed
  | publicSeed
deriving DecidableEq, Repr

def SeedRole.name : SeedRole → String
  | .secretSeed => "secret"
  | .publicSeed => "public"

inductive HashRole where
  | prf
  | message
deriving DecidableEq, Repr

def HashRole.name : HashRole → String
  | .prf => "PRF"
  | .message => "MSG"

/-- Why a parameter set, a key or a signature is refused. -/
inductive Error where
  /-- Ladder values would be empty. -/
  | invalidElementSize (size : Nat)
  /-- No digest byte, or more than can be signed. -/
  | invalidMessageSize (size : Nat)
  /-- A hash gives fewer bytes than its use requires. -/
  | hashTooSmall (role : HashRole) (hash : HashFamily) (required : Nat)
  | invalidSeedLength (role : SeedRole) (actual : Nat)
  | entropy (cause : RandomError)
  /-- The byte source reported another count than a seed's size. -/
  | shortRead (role : SeedRole) (actual : Nat)
  /-- A signature is longer or shorter than its parameter set says. -/
  | invalidSignatureLength (expected actual : Nat)
  /-- An output buffer is not an empty one of exactly a public key's size. -/
  | invalidOutputBuffer (length capacity : Nat)
  /-- A message or a signature is empty where that is not allowed. -/
  | emptyInput
  | unknownEncoding (tag : UInt8)
  /-- A transaction is signed at the consensus level. -/
  | consensusNotAllowed
deriving DecidableEq, Repr

def Error.message : Error → String
  | .invalidElementSize size => s!"Invalid chain element size {size}: must be at least 1 byte"
  | .invalidMessageSize size =>
      s!"Invalid hashed message size {size}: must be between 1 and {maxMessageSize}"
  | .hashTooSmall role hash required =>
      s!"{role.name} hash {hash.name} outputs {hash.size} bytes, {required} required"
  | .invalidSeedLength role actual =>
      s!"Invalid {role.name} seed length: expected {seedSize}, got {actual}"
  | .entropy cause => s!"Entropy source failed: {cause.message}"
  | .shortRead role actual =>
      s!"Short read for {role.name} seed: expected {seedSize} bytes, got {actual}"
  | .invalidSignatureLength expected actual =>
      s!"Invalid signature length: expected {expected}, got {actual}"
  | .invalidOutputBuffer length capacity =>
      s!"Output buffer must be empty with capacity {publicKeySize}, " ++
        s!"got len {length} and capacity {capacity}"
  | .emptyInput => "Empty message or signature"
  | .unknownEncoding tag => s!"Unknown parameter encoding {tag.toNat}"
  | .consensusNotAllowed => "Consensus parameters are not allowed for transaction signatures"

/-- A refusal as an inspected value, with everything that its wording tells. -/
def Error.outline : Error → Outline
  | .invalidElementSize size => .record "InvalidElementSize" [("n", .number size)] false
  | .invalidMessageSize size =>
      .record "InvalidMessageSize" [("m", .number size), ("max", .number maxMessageSize)] false
  | .hashTooSmall role hash required =>
      .record "HashTooSmall"
        [("role", .text role.name), ("hash", .atom hash.identifier), ("size", .number hash.size),
         ("required", .number required)]
        false
  | .invalidSeedLength role actual => outlineOfSeed "InvalidSeedLength" role actual
  | .entropy cause => .wrapped "Entropy" (.wrapped "Source" (.text cause.reason))
  | .shortRead role actual => outlineOfSeed "ShortRead" role actual
  | .invalidSignatureLength expected actual =>
      .record "InvalidSignatureLength" [("expected", .number expected), ("actual", .number actual)]
        false
  | .invalidOutputBuffer length capacity =>
      .record "InvalidOutputBuffer"
        [("len", .number length), ("capacity", .number capacity),
         ("expected", .number publicKeySize)]
        false
  | .emptyInput => .atom "EmptyInput"
  | .unknownEncoding tag => .wrapped "UnknownEncoding" (.number tag.toNat)
  | .consensusNotAllowed => .atom "ConsensusNotAllowed"
where
  /-- Both refusals of a seed tell the same of it. -/
  outlineOfSeed (name : String) (role : SeedRole) (actual : Nat) : Outline :=
    .record name
      [("which", .text role.name), ("expected", .number seedSize), ("actual", .number actual)]
      false

end Winternitz
