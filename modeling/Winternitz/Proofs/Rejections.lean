/-
Module: Winternitz.Proofs.Rejections
Purpose: Which refusals leave an event behind, and which leave none.
Main exports: Event.Explains, Report.Logged, Report.Unlogged, Logged.silently, Report.logged_iff,
  Params.decode_logged, Params.decodeInto_logged, decodeSignature_logged, decodeTransaction_logged,
  rejections_logged
-/
import Winternitz.Proofs.Acceptance
import Winternitz.Proofs.OutputBuffer

namespace Winternitz

/-!
Whoever reads a log wants to find every refusal in it once, with its reason.  The
entry points check some things twice, because each may be called on its own: the
length of a body before the buffer is looked at and again when the body is decoded,
an empty signature by the rules for transactions and again for want of a tag.  Of
each such pair only one check reports what it refuses, so two refusals leave no event.
-/

/-! ### Events and the refusals that they report -/

/-- An event gives the reason of a refusal. -/
inductive Event.Explains : Event → Error → Prop where
  | length (expected actual : Nat) :
      Explains (.invalidSignatureLength expected actual) (.invalidSignatureLength expected actual)
  | buffer (length capacity : Nat) :
      Explains (.malformedOutputBuffer length capacity) (.invalidOutputBuffer length capacity)
  | tag (tag : UInt8) : Explains (.unknownEncoding tag) (.unknownEncoding tag)
  /-- The lengths say which of the two is empty. -/
  | empty {messageLength signatureLength : Nat}
      (missing : messageLength = 0 ∨ signatureLength = 0) :
      Explains (.emptyTransaction messageLength signatureLength) .emptyInput
  | level : Explains .consensusTransaction .consensusNotAllowed

namespace Report

variable {α β : Type} {report : Report α}

/-- A refusal leaves one event, for debugging, that gives its reason, and a result leaves none. -/
inductive Logged : Report α → Prop where
  | result (value : α) : Logged ⟨.ok value, []⟩
  | refusal {event : Event} {error : Error} (debug : event.severity = .debug)
      (explains : event.Explains error) : Logged ⟨.error (.rejected error), [event]⟩

/-- A refusal that leaves no event. -/
inductive Unlogged : Report α → Prop where
  | refusal (error : Error) : Unlogged ⟨.error (.rejected error), []⟩

theorem Unlogged.not_logged (unlogged : report.Unlogged) : ¬ report.Logged := by
  intro logged
  cases unlogged with
  | refusal error => cases logged

/-- What is made of the result without events and refusals changes nothing. -/
theorem Logged.silently (logged : report.Logged) (make : α → β) :
    Report.Logged (do return make (← report)) := by
  cases logged with
  | result value => exact .result (make value)
  | refusal debug explains => exact .refusal debug explains

/-- If two conditions leave no third case, each is the exact one for its outcome. -/
theorem logged_iff {told silent : Prop} (either : told ∨ silent) (logged : told → report.Logged)
    (unlogged : silent → report.Unlogged) :
    (report.Logged ↔ told) ∧ (report.Unlogged ↔ silent) := by
  refine ⟨⟨?_, logged⟩, ⟨?_, unlogged⟩⟩
  · intro found
    exact either.resolve_right fun still => (unlogged still).not_logged found
  · intro found
    exact either.resolve_left fun holds => found.not_logged (logged holds)

end Report

/-! ### Decoding with known parameters -/

namespace Params

variable (params : Params) (buffer : OutputBuffer) (message : Bytes) {body : Bytes}

theorem decode_logged (body : Bytes) : (params.decode message body).Logged := by
  by_cases whole : body.length = params.bodySize
  · rw [params.decode_whole message whole]
    exact .result _
  · rw [params.decode_wrong message whole]
    exact .refusal rfl (.length ..)

/-- With a body of the right length only the buffer can be refused. -/
theorem decodeInto_logged (whole : body.length = params.bodySize) :
    (params.decodeInto buffer message body).1.Logged := by
  by_cases ready : buffer.ready = true
  · rw [decodeInto_ready whole ready]
    exact .result ()
  · rw [decodeInto_unready whole ready]
    exact .refusal rfl (.buffer ..)

/-- The length is checked before decoding, which would have reported it. -/
theorem decodeInto_unlogged (wrong : body.length ≠ params.bodySize) :
    (params.decodeInto buffer message body).1.Unlogged := by
  rw [decodeInto_wrong wrong]
  exact .refusal _

theorem decodeInto_logged_iff (body : Bytes) :
    ((params.decodeInto buffer message body).1.Logged ↔ body.length = params.bodySize) ∧
    ((params.decodeInto buffer message body).1.Unlogged ↔ body.length ≠ params.bodySize) :=
  Report.logged_iff (Decidable.em _) (params.decodeInto_logged buffer message)
    (params.decodeInto_unlogged buffer message)

end Params

/-! ### Decoding by the first byte -/

section Entry

variable (expected message : Bytes) {signature : Bytes}

theorem decodeSignature_logged (present : signature ≠ []) :
    (decodeSignature message signature).Logged := by
  obtain ⟨tag, body, rfl⟩ := List.exists_cons_of_ne_nil present
  by_cases low : tag.toNat < Level.all.length
  · obtain ⟨level, rfl⟩ := Level.exists_tag low
    rw [decodeSignature_tagged]
    exact level.params.decode_logged message body
  · rw [decodeSignature_unknown (Nat.le_of_not_lt low)]
    exact .refusal rfl (.tag tag)

/-- An empty signature is refused before there is a tag to report. -/
theorem decodeSignature_unlogged (absent : signature = []) :
    (decodeSignature message signature).Unlogged := by
  rw [absent]
  exact .refusal .emptyInput

theorem decodeSignature_logged_iff (signature : Bytes) :
    ((decodeSignature message signature).Logged ↔ signature ≠ []) ∧
    ((decodeSignature message signature).Unlogged ↔ signature = []) :=
  Report.logged_iff (Decidable.em _).symm (decodeSignature_logged message)
    (decodeSignature_unlogged message)

/-- For transactions an empty signature is reported before its tag is looked for. -/
theorem decodeTransaction_logged (signature : Bytes) :
    (decodeTransaction message signature).Logged := by
  -- The checks in their order: something empty, the consensus level, and then any signature's.
  by_cases missing : message = [] ∨ signature = []
  · rw [decodeTransaction_empty missing]
    simp only [← List.length_eq_zero_iff] at missing
    exact .refusal rfl (.empty missing)
  · rcases not_or.1 missing with ⟨present, signed⟩
    obtain ⟨tag, body, rfl⟩ := List.exists_cons_of_ne_nil signed
    by_cases consensus : tag = Level.consensus.tag
    · rw [consensus, decodeTransaction_consensus present]
      exact .refusal rfl .level
    · rw [decodeTransaction_other present consensus]
      exact decodeSignature_logged message signed

theorem verifyTransaction_logged (signature : Bytes) :
    (verifyTransaction expected message signature).Logged :=
  (decodeTransaction_logged message signature).silently (· == expected)

end Entry

/-- Every refusal is reported by exactly one event, for debugging, that gives its reason, and nothing
else is reported; except that decoding into a buffer does not report a body of the wrong length, and
that decoding by the tag does not report an empty signature. -/
theorem rejections_logged (params : Params) (buffer : OutputBuffer)
    (expected message signature body : Bytes) :
    (params.decode message body).Logged ∧
    ((params.decodeInto buffer message body).1.Logged ↔ body.length = params.bodySize) ∧
    ((params.decodeInto buffer message body).1.Unlogged ↔ body.length ≠ params.bodySize) ∧
    ((decodeSignature message signature).Logged ↔ signature ≠ []) ∧
    ((decodeSignature message signature).Unlogged ↔ signature = []) ∧
    (decodeTransaction message signature).Logged ∧
    (verifyTransaction expected message signature).Logged := by
  obtain ⟨intoLogged, intoUnlogged⟩ := params.decodeInto_logged_iff buffer message body
  obtain ⟨taggedLogged, taggedUnlogged⟩ := decodeSignature_logged_iff message signature
  exact ⟨params.decode_logged message body, intoLogged, intoUnlogged, taggedLogged, taggedUnlogged,
    decodeTransaction_logged message signature, verifyTransaction_logged expected message signature⟩

/-- One byte is too short a body for every level, and nothing is wrong with the buffer; yet the
refusal leaves no event, and neither does that of a signature without any byte. -/
theorem unlogged_rejections :
    (Level.level0.params.decodeInto (.ofBytes [] 32) [0x61] [0]).1 =
      ⟨.error (.rejected (.invalidSignatureLength 552 1)), []⟩ ∧
    decodeSignature [0x61] [] = ⟨.error (.rejected .emptyInput), []⟩ :=
  ⟨congrArg Prod.fst (Params.decodeInto_wrong (by decide)), rfl⟩

end Winternitz
