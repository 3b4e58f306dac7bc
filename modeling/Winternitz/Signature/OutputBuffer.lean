/-
Module: Winternitz.Signature.OutputBuffer
Purpose: Decoding into a buffer that is written at most once.
Main exports: OutputBuffer, Params.decodeInto, Params.decodeAllInto
-/
import Winternitz.Signature.Decode

namespace Winternitz

/-- A buffer that grows at its end and has room for `capacity` bytes. -/
structure OutputBuffer where
  bytes : Bytes
  capacity : Nat
  fits : bytes.length ≤ capacity

namespace OutputBuffer

/-- A buffer with this content and at least this capacity. -/
def ofBytes (bytes : Bytes) (capacity : Nat) : OutputBuffer :=
  ⟨bytes, max capacity bytes.length, Nat.le_max_right ..⟩

/-- More bytes at the end.  The capacity grows only if they do not fit. -/
def append (buffer : OutputBuffer) (more : Bytes) : OutputBuffer :=
  .ofBytes (buffer.bytes ++ more) buffer.capacity

/-- Whether the buffer can take a public key: empty, and of exactly its size. -/
def ready (buffer : OutputBuffer) : Bool :=
  buffer.bytes.isEmpty && buffer.capacity == publicKeySize

end OutputBuffer

namespace Params

/-- Decodes a signature body into a buffer.  The length of the body is checked
before the buffer, and a refused call leaves the buffer alone. -/
def decodeInto (params : Params) (buffer : OutputBuffer) (message body : Bytes) :
    Report Unit × OutputBuffer :=
  if body.length ≠ params.bodySize then
    (Report.reject (.invalidSignatureLength params.bodySize body.length), buffer)
  else if ¬ buffer.ready then
    let length := buffer.bytes.length
    (do Report.emit (.malformedOutputBuffer length buffer.capacity)
        Report.reject (.invalidOutputBuffer length buffer.capacity), buffer)
  else
    let decoded := params.decode message body
    match decoded.outcome with
    | .ok publicKey => (⟨.ok (), decoded.events⟩, buffer.append publicKey)
    | .error failure => (⟨.error failure, decoded.events⟩, buffer)

/-- Decodes one signature after the other into the same buffer: each answer with the buffer after it. -/
def decodeAllInto (params : Params) (buffer : OutputBuffer) :
    List (Bytes × Bytes) → List (Report Unit × OutputBuffer)
  | [] => []
  | (message, body) :: rest =>
      let answer := params.decodeInto buffer message body
      answer :: params.decodeAllInto answer.2 rest

end Params

end Winternitz
