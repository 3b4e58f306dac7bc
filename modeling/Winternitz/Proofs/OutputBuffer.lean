/-
Module: Winternitz.Proofs.OutputBuffer
Purpose: Decoding into a buffer, call after call: what each call answers, and that at most one of
  them writes.
Main exports: OutputBuffer.ready_iff, Params.decodeInto_wrong, Params.decodeInto_unready,
  Params.decodeInto_ready, Params.BufferAnswer, Params.BufferRun, BufferRun.filled,
  BufferRun.writes_once, Params.decodeAllInto_once
-/
import Winternitz.Proofs.Decode
import Winternitz.Signature.OutputBuffer

namespace Winternitz

/-!
A buffer that takes a public key is full afterwards, and a full buffer is refused.
Whatever the calls, a buffer therefore changes once at most, and a caller who finds
a public key in it knows that it stays there.
-/

/-! ### Buffers that can take a public key -/

namespace OutputBuffer

theorem ready_iff {buffer : OutputBuffer} :
    buffer.ready = true ↔ buffer.bytes = [] ∧ buffer.capacity = publicKeySize := by
  simp [ready]

/-- A public key just fits, so that the capacity does not change. -/
theorem append_of_ready {buffer : OutputBuffer} (ready : buffer.ready = true)
    {publicKey : PublicKey} (sized : publicKey.length = publicKeySize) :
    (buffer.append publicKey).bytes = publicKey ∧
      (buffer.append publicKey).capacity = publicKeySize := by
  obtain ⟨empty, room⟩ := ready_iff.1 ready
  simp [append, ofBytes, empty, room, sized]

end OutputBuffer

namespace Params

variable {params : Params} {buffer : OutputBuffer} {message body : Bytes}

/-! ### One call -/

/-- The length of the body is checked first, and a refusal for it is not reported. -/
theorem decodeInto_wrong (wrong : body.length ≠ params.bodySize) :
    params.decodeInto buffer message body =
      (⟨.error (.rejected (.invalidSignatureLength params.bodySize body.length)), []⟩, buffer) := by
  rw [decodeInto, if_pos wrong]
  rfl

theorem decodeInto_unready (whole : body.length = params.bodySize) (unready : ¬ buffer.ready = true) :
    params.decodeInto buffer message body =
      (⟨.error (.rejected (.invalidOutputBuffer buffer.bytes.length buffer.capacity)),
        [.malformedOutputBuffer buffer.bytes.length buffer.capacity]⟩, buffer) := by
  rw [decodeInto, if_neg (not_not_intro whole), if_pos unready]
  rfl

/-- Decoding cannot fail any more once both checks are passed. -/
theorem decodeInto_ready (whole : body.length = params.bodySize) (ready : buffer.ready = true) :
    params.decodeInto buffer message body =
      (.ofValue (), buffer.append (params.claimedKey message body)) := by
  rw [decodeInto, if_neg (not_not_intro whole), if_neg (not_not_intro ready),
    params.decode_whole message whole]
  rfl

/-- One call: the buffer before it, its outcome, and the buffer after it. -/
inductive BufferAnswer (params : Params) (message body : Bytes) :
    OutputBuffer → Except Failure Unit → OutputBuffer → Prop where
  /-- Whatever the buffer, the length of the body comes first. -/
  | wrongLength {buffer : OutputBuffer} (wrong : body.length ≠ params.bodySize) :
      BufferAnswer params message body buffer
        (.error (.rejected (.invalidSignatureLength params.bodySize body.length))) buffer
  | malformed {buffer : OutputBuffer} (whole : body.length = params.bodySize)
      (unready : buffer.bytes ≠ [] ∨ buffer.capacity ≠ 32) :
      BufferAnswer params message body buffer
        (.error (.rejected (.invalidOutputBuffer buffer.bytes.length buffer.capacity))) buffer
  /-- The buffer holds what decoding gives for the same message and body. -/
  | written {before after : OutputBuffer} (whole : body.length = params.bodySize)
      (empty : before.bytes = []) (room : before.capacity = 32)
      (decoded : (params.decode message body).outcome = .ok after.bytes)
      (sized : after.bytes.length = 32) (kept : after.capacity = 32) :
      BufferAnswer params message body before (.ok ()) after

theorem bufferAnswer_decodeInto (params : Params) (buffer : OutputBuffer) (message body : Bytes) :
    params.BufferAnswer message body buffer (params.decodeInto buffer message body).1.outcome
      (params.decodeInto buffer message body).2 := by
  by_cases whole : body.length = params.bodySize
  · by_cases ready : buffer.ready = true
    · obtain ⟨empty, room⟩ := OutputBuffer.ready_iff.1 ready
      have sized : (params.claimedKey message body).length = publicKeySize :=
        HashFamily.length_digest ..
      obtain ⟨held, kept⟩ := OutputBuffer.append_of_ready ready sized
      rw [decodeInto_ready whole ready]
      refine .written whole empty room ?_ ?_ kept
      · rw [held, params.decode_whole message whole]
        rfl
      · rw [held]
        exact sized
    · rw [decodeInto_unready whole ready]
      rw [OutputBuffer.ready_iff, Decidable.not_and_iff_not_or_not] at ready
      exact .malformed whole ready
  · rw [decodeInto_wrong whole]
    exact .wrongLength whole

namespace BufferAnswer

variable {before after : OutputBuffer} {outcome : Except Failure Unit}

/-- A refused call leaves the buffer alone. -/
theorem unchanged (answer : params.BufferAnswer message body before outcome after)
    (refused : outcome ≠ .ok ()) : after = before := by
  cases answer with
  | wrongLength => rfl
  | malformed => rfl
  | written => exact absurd rfl refused

/-- Nothing is written to a buffer that holds something. -/
theorem refused_of_filled (answer : params.BufferAnswer message body before outcome after)
    (filled : before.bytes ≠ []) : outcome ≠ .ok () := by
  cases answer with
  | wrongLength => simp
  | malformed => simp
  | written _ empty => exact absurd empty filled

theorem filled_of_written (answer : params.BufferAnswer message body before outcome after)
    (written : outcome = .ok ()) : after.bytes ≠ [] := by
  cases answer with
  | wrongLength => cases written
  | malformed => cases written
  | written _ _ _ _ sized =>
      intro empty
      simp [empty] at sized

end BufferAnswer

/-! ### Calls one after the other -/

/-- Calls on one buffer, each of which finds the buffer as the one before has left it. -/
inductive BufferRun (params : Params) :
    OutputBuffer → List (Bytes × Bytes) → List (Report Unit × OutputBuffer) → Prop where
  | done (buffer : OutputBuffer) : BufferRun params buffer [] []
  | call {before after : OutputBuffer} {message body : Bytes} {report : Report Unit}
      {calls : List (Bytes × Bytes)} {answers : List (Report Unit × OutputBuffer)}
      (first : params.BufferAnswer message body before report.outcome after)
      (rest : BufferRun params after calls answers) :
      BufferRun params before ((message, body) :: calls) ((report, after) :: answers)

theorem bufferRun_decodeAllInto (params : Params) (buffer : OutputBuffer)
    (calls : List (Bytes × Bytes)) :
    params.BufferRun buffer calls (params.decodeAllInto buffer calls) := by
  induction calls generalizing buffer with
  | nil => exact .done buffer
  | cons call calls ih =>
      exact .call (params.bufferAnswer_decodeInto buffer call.1 call.2) (ih _)

namespace BufferRun

variable {calls : List (Bytes × Bytes)} {answers : List (Report Unit × OutputBuffer)}

/-- A buffer that holds something is refused by every call, and stays as it is. -/
theorem filled (run : params.BufferRun buffer calls answers) (filled : buffer.bytes ≠ []) :
    ∀ answer ∈ answers, answer.1.outcome ≠ .ok () ∧ answer.2 = buffer := by
  induction run with
  | done => simp
  | call first rest ih =>
      have refused := first.refused_of_filled filled
      have same := first.unchanged refused
      subst same
      simpa [refused] using ih filled

/-- After the call that writes, no call writes again. -/
theorem writes_once (run : params.BufferRun buffer calls answers) :
    answers.Pairwise fun earlier later =>
      earlier.1.outcome = .ok () → later.1.outcome ≠ .ok () ∧ later.2 = earlier.2 := by
  induction run with
  | done => exact .nil
  | call first rest ih =>
      refine .cons ?_ ih
      intro later member written
      exact rest.filled (first.filled_of_written written) later member

end BufferRun

/-- Any calls on any buffer: each is refused for the length of its body, or else for a buffer that is
not empty or has another capacity than a public key needs, and otherwise leaves in the buffer what
decoding gives; a refused call changes nothing, and after the one that writes all are refused. -/
theorem decodeAllInto_once (params : Params) (buffer : OutputBuffer)
    (calls : List (Bytes × Bytes)) :
    params.BufferRun buffer calls (params.decodeAllInto buffer calls) ∧
    (params.decodeAllInto buffer calls).Pairwise fun earlier later =>
      earlier.1.outcome = .ok () → later.1.outcome ≠ .ok () ∧ later.2 = earlier.2 := by
  have run := params.bufferRun_decodeAllInto buffer calls
  exact ⟨run, run.writes_once⟩

end Params

end Winternitz
