/-
Module: Winternitz.Proofs.Acceptance
Purpose: Which signatures the entry points accept, and for which reason they refuse every other one.
Main exports: Level.bodySize_inj, Ruling, decodeSignature_ruling, decodeSignature_ok, Accepted,
  SignatureAnswers, TransactionAnswers, VerificationAnswers, acceptance_exact
-/
import Winternitz.Proofs.Decode
import Winternitz.Proofs.Dispatch

namespace Winternitz

/-!
Whether a signature is accepted depends on its first byte and its length, and on
nothing else.  `Ruling` says so case by case, and the conditions of the single
answers are read off its cases.  The sizes of the levels are all different, so
that the length of an accepted signature determines its tag.
-/

/-! ### Tags and sizes of the levels -/

namespace Level

theorem tag_lt (level : Level) : level.tag.toNat < all.length := by
  cases level <;> decide

/-- A byte is the tag of a level unless it is beyond all of them. -/
theorem exists_tag {tag : UInt8} (low : tag.toNat < all.length) :
    ∃ level : Level, level.tag = tag := by
  have found : all[tag.toNat]? = some all[tag.toNat] := List.getElem?_eq_getElem low
  refine ⟨all[tag.toNat], UInt8.toNat_inj.1 ?_⟩
  generalize tag.toNat = position at low found
  match position, low with
  | 0, _ | 1, _ | 2, _ | 3, _ | 4, _ => rfl

theorem bodySize_inj {left right : Level} (same : left.params.bodySize = right.params.bodySize) :
    left = right := by
  revert same
  cases left <;> cases right <;> decide

end Level

theorem Params.length_claimedKey (params : Params) (message body : Bytes) :
    (params.claimedKey message body).length = publicKeySize :=
  HashFamily.length_digest ..

/-! ### Signatures -/

/-- The answer to a signature, by its first byte and its length. -/
inductive Ruling : Bytes → Except Failure PublicKey → Prop where
  | empty : Ruling [] (.error (.rejected .emptyInput))
  | unknown {tag : UInt8} (high : Level.all.length ≤ tag.toNat) (body : Bytes) :
      Ruling (tag :: body) (.error (.rejected (.unknownEncoding tag)))
  | wrongLength (level : Level) {body : Bytes} (wrong : body.length ≠ level.params.bodySize) :
      Ruling (level.tag :: body)
        (.error (.rejected (.invalidSignatureLength level.params.bodySize body.length)))
  | accepted (level : Level) {body : Bytes} (whole : body.length = level.params.bodySize)
      {publicKey : PublicKey} (sized : publicKey.length = publicKeySize) :
      Ruling (level.tag :: body) (.ok publicKey)

/-- Every signature is answered in one of these ways. -/
theorem decodeSignature_ruling (message signature : Bytes) :
    Ruling signature (decodeSignature message signature).outcome := by
  cases signature with
  | nil => exact Ruling.empty
  | cons tag body =>
      by_cases low : tag.toNat < Level.all.length
      · obtain ⟨level, rfl⟩ := Level.exists_tag low
        rw [decodeSignature_tagged]
        by_cases whole : body.length = level.params.bodySize
        · rw [level.params.decode_whole message whole]
          exact Ruling.accepted level whole (level.params.length_claimedKey message body)
        · rw [level.params.decode_wrong message whole]
          exact Ruling.wrongLength level whole
      · rw [decodeSignature_unknown (Nat.le_of_not_lt low)]
        exact Ruling.unknown (Nat.le_of_not_lt low) body

/-- Whatever is decoded has the tag and the length of a level, and gives the key that it claims. -/
theorem decodeSignature_ok {message signature : Bytes} {publicKey : PublicKey}
    (decoded : (decodeSignature message signature).outcome = .ok publicKey) :
    ∃ (level : Level) (body : Bytes), signature = level.tag :: body ∧
      body.length = level.params.bodySize ∧ level.params.claimedKey message body = publicKey := by
  have ruling := decodeSignature_ruling message signature
  rw [decoded] at ruling
  cases ruling with
  | accepted level whole sized =>
      rw [decodeSignature_tagged] at decoded
      exact ⟨level, _, rfl, level.params.decode_ok decoded⟩

namespace Ruling

variable {signature : Bytes} {outcome : Except Failure PublicKey}

/-- The length contract of no step is ever broken. -/
theorem no_fault (ruling : Ruling signature outcome) (cause : Fault) :
    outcome ≠ .error (.fault cause) := by
  cases ruling <;> simp

theorem empty_iff (ruling : Ruling signature outcome) :
    outcome = .error (.rejected .emptyInput) ↔ signature = [] := by
  cases ruling <;> simp

theorem not_consensus (ruling : Ruling signature outcome) :
    outcome ≠ .error (.rejected .consensusNotAllowed) := by
  cases ruling <;> simp

theorem unknown_iff (ruling : Ruling signature outcome) (tag : UInt8) :
    outcome = .error (.rejected (.unknownEncoding tag)) ↔
      signature.head? = some tag ∧ Level.all.length ≤ tag.toNat := by
  have known (level : Level) : ¬ (level.tag = tag ∧ Level.all.length ≤ tag.toNat) := by
    rintro ⟨rfl, high⟩
    exact absurd level.tag_lt (Nat.not_lt.2 high)
  cases ruling with
  | empty => simp
  | unknown high body =>
      simp only [Except.error.injEq, Failure.rejected.injEq, Error.unknownEncoding.injEq,
        List.head?_cons, Option.some.injEq, iff_self_and]
      rintro rfl
      exact high
  | wrongLength level wrong => simpa using known level
  | accepted level whole sized => simpa using known level

theorem wrongLength_iff (ruling : Ruling signature outcome) (expected actual : Nat) :
    outcome = .error (.rejected (.invalidSignatureLength expected actual)) ↔
      ∃ level : Level, signature.head? = some level.tag ∧ expected = level.params.bodySize ∧
        actual = signature.length - 1 ∧ actual ≠ expected := by
  cases ruling with
  | empty => simp
  | unknown high body =>
      simp only [Except.error.injEq, Failure.rejected.injEq, reduceCtorEq, List.head?_cons,
        Option.some.injEq, false_iff]
      rintro ⟨level, rfl, -⟩
      exact absurd level.tag_lt (Nat.not_lt.2 high)
  | wrongLength level wrong =>
      constructor
      · intro same
        cases same
        exact ⟨level, rfl, rfl, rfl, wrong⟩
      · rintro ⟨other, head, rfl, rfl, -⟩
        cases Level.tag_inj (Option.some.inj head)
        rfl
  | accepted level whole sized =>
      simp only [reduceCtorEq, false_iff]
      rintro ⟨other, head, rfl, rfl, wrong⟩
      cases Level.tag_inj (Option.some.inj head)
      exact wrong whole

theorem accepted_iff (ruling : Ruling signature outcome) :
    (∃ publicKey, outcome = .ok publicKey) ↔
      ∃ level : Level, signature.head? = some level.tag ∧
        signature.length = level.params.signatureSize := by
  cases ruling with
  | empty => simp
  | unknown high body =>
      simp only [reduceCtorEq, exists_false, List.head?_cons, Option.some.injEq, false_iff]
      rintro ⟨level, rfl, -⟩
      exact absurd level.tag_lt (Nat.not_lt.2 high)
  | wrongLength level wrong =>
      simp only [reduceCtorEq, exists_false, false_iff]
      rintro ⟨other, head, length⟩
      cases Level.tag_inj (Option.some.inj head)
      rw [List.length_cons, Params.signatureSize, Nat.add_comm] at length
      exact wrong (Nat.add_left_cancel length)
  | accepted level whole sized =>
      refine iff_of_true ⟨_, rfl⟩ ⟨level, rfl, ?_⟩
      rw [List.length_cons, whole, Params.signatureSize, Nat.add_comm]

end Ruling

/-- A signature leads to some public key. -/
def Accepted (message signature : Bytes) : Prop :=
  ∃ publicKey, (decodeSignature message signature).outcome = .ok publicKey

theorem accepted_iff_sized {message signature : Bytes} :
    Accepted message signature ↔ ∃ level : Level, signature.head? = some level.tag ∧
      signature.length = level.params.signatureSize :=
  (decodeSignature_ruling message signature).accepted_iff

/-- The bytes after the tag are long enough for one level at most. -/
theorem Accepted.tag_unique {message tail : Bytes} {one other : UInt8}
    (first : Accepted message (one :: tail)) (second : Accepted message (other :: tail)) :
    one = other := by
  obtain ⟨left, leftTag, leftLength⟩ := accepted_iff_sized.1 first
  obtain ⟨right, rightTag, rightLength⟩ := accepted_iff_sized.1 second
  have sizes : left.params.bodySize = right.params.bodySize := by
    rw [List.length_cons] at leftLength rightLength
    exact Nat.add_left_cancel (leftLength.symm.trans rightLength)
  cases Level.bodySize_inj sizes
  rw [Option.some.inj leftTag, Option.some.inj rightTag]

/-- An accepted signature is no longer one with more bytes after it. -/
theorem Accepted.append_unique {message signature more : Bytes}
    (short : Accepted message signature) (long : Accepted message (signature ++ more)) :
    more = [] := by
  obtain ⟨left, leftTag, leftLength⟩ := accepted_iff_sized.1 short
  obtain ⟨right, rightTag, rightLength⟩ := accepted_iff_sized.1 long
  rw [List.head?_append, leftTag, Option.some_or] at rightTag
  cases Level.tag_inj (Option.some.inj rightTag)
  rw [List.length_append, leftLength] at rightLength
  apply List.eq_nil_of_length_eq_zero
  omega

/-- When each answer is given to a signature. -/
structure SignatureAnswers (message signature : Bytes) : Prop where
  empty : (decodeSignature message signature).outcome = .error (.rejected .emptyInput) ↔
    signature = []
  unknown : ∀ tag, (decodeSignature message signature).outcome =
      .error (.rejected (.unknownEncoding tag)) ↔ signature.head? = some tag ∧ 5 ≤ tag.toNat
  wrongLength : ∀ expected actual, (decodeSignature message signature).outcome =
      .error (.rejected (.invalidSignatureLength expected actual)) ↔
    ∃ level : Level, signature.head? = some level.tag ∧ expected = level.params.bodySize ∧
      actual = signature.length - 1 ∧ actual ≠ expected
  /-- Nothing else is refused. -/
  accepted : Accepted message signature ↔
    signature ≠ [] ∧ (∀ tag, signature.head? = some tag → tag.toNat < 5) ∧
      ∀ level : Level, signature.head? = some level.tag →
        signature.length - 1 = level.params.bodySize
  no_fault : ∀ cause, (decodeSignature message signature).outcome ≠ .error (.fault cause)

theorem signatureAnswers (message signature : Bytes) : SignatureAnswers message signature := by
  have ruling := decodeSignature_ruling message signature
  refine ⟨ruling.empty_iff, ruling.unknown_iff, ruling.wrongLength_iff, ?_, ruling.no_fault⟩
  rw [accepted_iff_sized]
  constructor
  · rintro ⟨level, head, length⟩
    refine ⟨?_, ?_, ?_⟩
    · rintro rfl
      cases head
    · intro tag found
      rw [head, Option.some.injEq] at found
      exact found ▸ level.tag_lt
    · intro other found
      rw [head, Option.some.injEq] at found
      rw [length, ← Level.tag_inj found, Params.signatureSize, Nat.add_sub_cancel_left]
  · rintro ⟨present, known, whole⟩
    obtain ⟨tag, body, rfl⟩ := List.exists_cons_of_ne_nil present
    obtain ⟨level, rfl⟩ := Level.exists_tag (known tag rfl)
    refine ⟨level, rfl, ?_⟩
    rw [Params.signatureSize, ← whole level rfl, List.length_cons, Nat.add_sub_cancel, Nat.add_comm]

/-! ### Transactions -/

/-- A transaction is refused because something is empty, or for its level, or treated like any
signature. -/
theorem decodeTransaction_cases (message signature : Bytes) :
    ((message = [] ∨ signature = []) ∧
      (decodeTransaction message signature).outcome = .error (.rejected .emptyInput)) ∨
    (message ≠ [] ∧ signature.head? = some Level.consensus.tag ∧
      (decodeTransaction message signature).outcome = .error (.rejected .consensusNotAllowed)) ∨
    (message ≠ [] ∧ signature ≠ [] ∧ signature.head? ≠ some Level.consensus.tag ∧
      decodeTransaction message signature = decodeSignature message signature) := by
  by_cases missing : message = [] ∨ signature = []
  · left
    rw [decodeTransaction_empty missing]
    exact ⟨missing, rfl⟩
  · right
    rcases not_or.1 missing with ⟨present, signed⟩
    obtain ⟨tag, body, rfl⟩ := List.exists_cons_of_ne_nil signed
    by_cases consensus : tag = Level.consensus.tag
    · left
      rw [consensus, decodeTransaction_consensus present]
      exact ⟨present, rfl, rfl⟩
    · right
      refine ⟨present, signed, ?_, decodeTransaction_other present consensus body⟩
      rw [List.head?_cons, Ne, Option.some.injEq]
      exact consensus

/-- When each answer is given to a transaction. -/
structure TransactionAnswers (message signature : Bytes) : Prop where
  empty : (decodeTransaction message signature).outcome = .error (.rejected .emptyInput) ↔
    message = [] ∨ signature = []
  /-- The consensus level is refused before the length is looked at. -/
  consensus : (decodeTransaction message signature).outcome =
      .error (.rejected .consensusNotAllowed) ↔ message ≠ [] ∧ signature.head? = some 4
  other : message ≠ [] → signature ≠ [] → signature.head? ≠ some 4 →
    decodeTransaction message signature = decodeSignature message signature
  no_fault : ∀ cause, (decodeTransaction message signature).outcome ≠ .error (.fault cause)

theorem transactionAnswers (message signature : Bytes) : TransactionAnswers message signature := by
  rcases decodeTransaction_cases message signature with
    ⟨missing, refused⟩ | ⟨present, head, refused⟩ | ⟨present, signed, head, decoded⟩
  · have incomplete : ¬ (message ≠ [] ∧ signature.head? = some 4) := by
      rcases missing with rfl | rfl <;> simp
    constructor
    · exact iff_of_true refused missing
    · rw [refused]
      exact iff_of_false (by simp) incomplete
    · intro present signed
      exact absurd missing (not_or.2 ⟨present, signed⟩)
    · intro cause
      rw [refused]
      simp
  · have signed : signature ≠ [] := by
      rintro rfl
      cases head
    constructor
    · rw [refused]
      exact iff_of_false (by simp) (not_or.2 ⟨present, signed⟩)
    · exact iff_of_true refused ⟨present, head⟩
    · intro _ _ other
      exact absurd head other
    · intro cause
      rw [refused]
      simp
  · have ruling := decodeSignature_ruling message signature
    constructor
    · rw [decoded, ruling.empty_iff]
      exact iff_of_false signed (not_or.2 ⟨present, signed⟩)
    · rw [decoded]
      exact iff_of_false ruling.not_consensus fun both => head both.2
    · intro _ _ _
      exact decoded
    · rw [decoded]
      exact ruling.no_fault

/-- What a transaction leads to, if to anything, is a public key of the right size. -/
theorem length_of_decodeTransaction {message signature : Bytes} {publicKey : PublicKey}
    (decoded : (decodeTransaction message signature).outcome = .ok publicKey) :
    publicKey.length = publicKeySize := by
  rcases decodeTransaction_cases message signature with
    ⟨-, refused⟩ | ⟨-, -, refused⟩ | ⟨-, -, -, same⟩
  · rw [refused] at decoded
    cases decoded
  · rw [refused] at decoded
    cases decoded
  · rw [same] at decoded
    obtain ⟨level, body, -, -, rfl⟩ := decodeSignature_ok decoded
    exact level.params.length_claimedKey message body

/-! ### Verification -/

/-- What a comparison with an expected public key adds to the decoding of a transaction. -/
structure VerificationAnswers (expected message signature : Bytes) : Prop where
  refused : ∀ failure, (verifyTransaction expected message signature).outcome = .error failure ↔
    (decodeTransaction message signature).outcome = .error failure
  compared : ∀ publicKey, (decodeTransaction message signature).outcome = .ok publicKey →
    publicKey.length = 32 ∧
    (verifyTransaction expected message signature).outcome = .ok (decide (expected = publicKey))
  no_fault : ∀ cause, (verifyTransaction expected message signature).outcome ≠ .error (.fault cause)

theorem verifyTransaction_outcome (expected message signature : Bytes) :
    (verifyTransaction expected message signature).outcome =
      (decodeTransaction message signature).outcome.map fun publicKey =>
        decide (expected = publicKey) := by
  cases decoded : decodeTransaction message signature with
  | mk outcome events =>
      cases outcome with
      | error failure => rw [verifyTransaction_of_error decoded, Except.map]
      | ok publicKey =>
          have same : (publicKey == expected) = decide (expected = publicKey) := by
            rw [Bool.eq_iff_iff, beq_iff_eq, decide_eq_true_eq, eq_comm]
          rw [verifyTransaction_of_ok decoded, Except.map, same]

theorem verificationAnswers (expected message signature : Bytes) :
    VerificationAnswers expected message signature := by
  have verified := verifyTransaction_outcome expected message signature
  have refused (failure : Failure) :
      (verifyTransaction expected message signature).outcome = .error failure ↔
        (decodeTransaction message signature).outcome = .error failure := by
    rw [verified]
    cases (decodeTransaction message signature).outcome <;> simp [Except.map]
  refine ⟨refused, ?_, ?_⟩
  · intro publicKey decoded
    rw [verified, decoded]
    exact ⟨length_of_decodeTransaction decoded, rfl⟩
  · intro cause faulty
    exact (transactionAnswers message signature).no_fault cause ((refused _).1 faulty)

/-! ### All entry points -/

/-- The answers of the three entry points in full.  No two tags suit the same bytes after them, of
two signatures of which one begins the other at most one is accepted, and a transaction that is
accepted at all is verified against one byte string alone. -/
theorem acceptance_exact (message signature : Bytes) :
    SignatureAnswers message signature ∧
    (∀ tail one other, Accepted message (one :: tail) → Accepted message (other :: tail) →
      one = other) ∧
    (∀ more, Accepted message signature → Accepted message (signature ++ more) → more = []) ∧
    TransactionAnswers message signature ∧
    (∀ expected, VerificationAnswers expected message signature) ∧
    ((∃ publicKey, (decodeTransaction message signature).outcome = .ok publicKey) →
      ∃ verified, ∀ expected,
        (verifyTransaction expected message signature).outcome = .ok true ↔ expected = verified) := by
  refine ⟨signatureAnswers message signature, fun _ _ _ => Accepted.tag_unique,
    fun _ => Accepted.append_unique, transactionAnswers message signature,
    fun expected => verificationAnswers expected message signature, ?_⟩
  rintro ⟨publicKey, decoded⟩
  refine ⟨publicKey, ?_⟩
  intro expected
  rw [verifyTransaction_outcome, decoded]
  simp [Except.map]

end Winternitz
