/-
Module: Winternitz.Proofs.Dispatch
Purpose: Which parameter set each tag selects, and what the rules for transactions refuse.
Main exports: Params.fields, Params.new_fields, Level.find?_all, Level.tagOf_params,
  Level.tagOf_unnamed, decodeSignature_tagged, decodeSignature_unknown, decodeTransaction_empty,
  decodeTransaction_consensus, decodeTransaction_other, verifyTransaction_of_ok,
  verifyTransaction_of_error
-/
import Winternitz.Signature.Dispatch

namespace Winternitz

/-! ### Named parameter sets -/

namespace Params

/-- What tells parameter sets apart. -/
def fields (params : Params) : Nat × Nat × HashFamily × HashFamily :=
  (params.elementSize, params.messageSize, params.prfHash, params.messageHash)

theorem fields_inj {left right : Params} : left.fields = right.fields ↔ left = right := by
  constructor
  · intro same
    simp only [fields, Prod.mk.injEq] at same
    obtain ⟨element, message, prf, digest⟩ := same
    exact ext_of_fields element message prf digest
  · rintro rfl
    rfl

/-- Every parameter set passes the checks with its own fields, and is made anew from them. -/
theorem new_fields (params : Params) :
    Params.new params.elementSize params.messageSize params.prfHash params.messageHash =
      .ok params := by
  have element := params.elementSize_pos
  have message := params.messageSize_pos
  rw [Params.new, dif_neg (Nat.ne_of_gt element), dif_neg (by have := params.messageSize_le; omega),
    dif_neg (Nat.not_lt.2 params.elementSize_fits), dif_neg (Nat.not_lt.2 params.messageSize_fits)]

end Params

namespace Level

theorem mem_all (level : Level) : level ∈ all := by
  cases level <;> decide

theorem params_inj {left right : Level} (same : left.params = right.params) : left = right := by
  revert same
  cases left <;> cases right <;> decide

/-- A search among all levels by something that tells them apart finds the one that has it. -/
theorem find?_all {α : Type} [DecidableEq α] {view : Level → α}
    (distinct : ∀ left right, view left = view right → left = right) {wanted : α} {level : Level} :
    (all.find? fun level => view level = wanted) = some level ↔ view level = wanted := by
  constructor
  · intro found
    simpa using List.find?_some found
  · rintro rfl
    cases found : all.find? fun other => view other = view level with
    | none => simpa [mem_all] using List.find?_eq_none.1 found level
    | some other =>
        have same : view other = view level := by simpa using List.find?_some found
        rw [distinct other level same]

/-- The lookup by parameters finds a level exactly if these are its parameters. -/
theorem ofParams?_eq_some_iff {params : Params} {level : Level} :
    ofParams? params = some level ↔ level.params = params :=
  find?_all fun _ _ => params_inj

theorem tagOf_params (level : Level) : tagOf level.params = level.tag := by
  rw [tagOf, ofParams?_eq_some_iff.2 rfl]

theorem tagOf_unnamed {params : Params} (unnamed : ∀ level : Level, level.params ≠ params) :
    tagOf params = unnamedTag := by
  rw [tagOf]
  cases found : ofParams? params with
  | none => rfl
  | some level => exact absurd (ofParams?_eq_some_iff.1 found) (unnamed level)

theorem ofTag_tag (level : Level) : ofTag level.tag = .ok level := by
  cases level <;> rfl

/-- Beyond the last level there are no tags. -/
theorem ofTag_unknown {tag : UInt8} (high : all.length ≤ tag.toNat) :
    ofTag tag = .error (.unknownEncoding tag) := by
  rw [ofTag, List.getElem?_eq_none high]

theorem tag_inj {left right : Level} (same : left.tag = right.tag) : left = right := by
  revert same
  cases left <;> cases right <;> decide

end Level

/-! ### Signatures by their first byte -/

/-- The tag of a level selects its parameters. -/
theorem decodeSignature_tagged (level : Level) (message body : Bytes) :
    decodeSignature message (level.tag :: body) = level.params.decode message body := by
  rw [decodeSignature, levelOfTag, Level.ofTag_tag]
  rfl

theorem decodeSignature_unknown {tag : UInt8} (high : Level.all.length ≤ tag.toNat)
    (message body : Bytes) :
    decodeSignature message (tag :: body) =
      ⟨.error (.rejected (.unknownEncoding tag)), [.unknownEncoding tag]⟩ := by
  rw [decodeSignature, levelOfTag, Level.ofTag_unknown high]
  rfl

/-! ### Transactions -/

section Transactions

variable {message signature : Bytes}

theorem decodeTransaction_empty (missing : message = [] ∨ signature = []) :
    decodeTransaction message signature =
      ⟨.error (.rejected .emptyInput), [.emptyTransaction message.length signature.length]⟩ := by
  rw [decodeTransaction, if_pos (by simpa using missing)]
  rfl

/-- The consensus level is refused whatever follows its tag. -/
theorem decodeTransaction_consensus (present : message ≠ []) (body : Bytes) :
    decodeTransaction message (Level.consensus.tag :: body) =
      ⟨.error (.rejected .consensusNotAllowed), [.consensusTransaction]⟩ := by
  rw [decodeTransaction, if_neg (by simpa using present), if_pos (List.head?_cons ..)]
  rfl

/-- At every other tag transactions are decoded as any signature is. -/
theorem decodeTransaction_other (present : message ≠ []) {tag : UInt8}
    (allowed : tag ≠ Level.consensus.tag) (body : Bytes) :
    decodeTransaction message (tag :: body) = decodeSignature message (tag :: body) := by
  rw [decodeTransaction, if_neg (by simpa using present), if_neg (by simpa using allowed)]

theorem verifyTransaction_of_ok {publicKey : PublicKey} {events : List Event}
    (decoded : decodeTransaction message signature = ⟨.ok publicKey, events⟩) (expected : Bytes) :
    verifyTransaction expected message signature = ⟨.ok (publicKey == expected), events⟩ :=
  Report.bind_silent decoded rfl

theorem verifyTransaction_of_error {failure : Failure} {events : List Event}
    (refused : decodeTransaction message signature = ⟨.error failure, events⟩) (expected : Bytes) :
    verifyTransaction expected message signature = ⟨.error failure, events⟩ :=
  Report.bind_of_error refused _

end Transactions

end Winternitz
