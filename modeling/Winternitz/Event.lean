/-
Module: Winternitz.Event
Purpose: What the library reports of its work besides its results.
Main exports: Event, Event.severity, Event.message, Event.fields
-/
import Winternitz.Params

namespace Winternitz

/-- How much an event matters to a reader of the log. -/
inductive Severity where
  | debug
  | trace
deriving DecidableEq, Repr

/-- Something worth telling: work that was done or spared, and refusals of signatures.  Two refusals go
untold: of an empty signature that is not offered for a transaction, and of one that has a wrong length
when an output buffer is to be filled. -/
inductive Event where
  /-- A public key was taken from the cache. -/
  | publicKeyCached
  /-- All positions of a key's ladders are about to be computed. -/
  | generatingLadders (params : Params)
  /-- A signature was refused for its length. -/
  | invalidSignatureLength (expected actual : Nat)
  /-- A public key was not written because of the buffer offered for it. -/
  | malformedOutputBuffer (length capacity : Nat)
  /-- A signature was refused because no level has its tag. -/
  | unknownEncoding (tag : UInt8)
  /-- A transaction was refused because its message or its signature is empty. -/
  | emptyTransaction (messageLength signatureLength : Nat)
  /-- A transaction was refused because it is signed at the consensus level. -/
  | consensusTransaction
deriving DecidableEq

inductive EventField where
  | number (value : Nat)
  | text (value : String)
deriving DecidableEq, Repr

def EventField.shown : EventField → String
  | number value => toString value
  | text value => value

namespace Event

/-- Refusals and long work are for debugging; a spared computation is only traced. -/
def severity : Event → Severity
  | publicKeyCached => .trace
  | _ => .debug

def message : Event → String
  | publicKeyCached => "WOTS+ public key cache hit"
  | generatingLadders _ => "generating WOTS+ ladders"
  | invalidSignatureLength .. => "rejecting WOTS+ signature with invalid length"
  | malformedOutputBuffer .. => "rejecting malformed output buffer"
  | unknownEncoding _ => "rejecting signature with unknown parameter encoding"
  | emptyTransaction .. => "rejecting empty transaction input"
  | consensusTransaction => "rejecting transaction signed with consensus parameters"

def fields : Event → List (String × EventField)
  | publicKeyCached => []
  | generatingLadders params => [("params", .text params.display)]
  | invalidSignatureLength expected actual =>
      [("expected", .number expected), ("actual", .number actual)]
  | malformedOutputBuffer length capacity =>
      [("len", .number length), ("capacity", .number capacity)]
  | unknownEncoding tag => [("tag", .number tag.toNat)]
  | emptyTransaction messageLength signatureLength =>
      [("msg_len", .number messageLength), ("sig_len", .number signatureLength)]
  | consensusTransaction => []

end Event

end Winternitz
