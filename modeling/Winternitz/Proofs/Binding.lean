/-
Module: Winternitz.Proofs.Binding
Purpose: Every byte of an accepted signature shows in what is hashed into the public key.
Main exports: Params.Joins, Params.exists_joins, Params.exists_apart, Opening, Opening.of_decoded,
  Opening.eq_of_input, Opening.Meets, signature_binding
-/
import Winternitz.Proofs.Acceptance
import Winternitz.Proofs.LadderWalks

namespace Winternitz

/-!
The input of the public key's hash has a length of its own at every level, and
shows the public seed and all ladder ends.  So it differs for two signatures
unless they differ in ladder values alone, and each of these is walked on to
the same end as before.  Then two values of one ladder come together on the
way, at a step whose hash collides.
-/

/-! ### Two walks on one ladder -/

namespace Params

variable (params : Params) (publicSeed : Bytes)

/-- Walks from two values at depth `low` are apart at `depth`, and one step further they are
together: the hash of that step collides. -/
structure Joins (low depth : Nat) (one other : Bytes) : Prop where
  merge : params.Merge publicSeed depth (params.walk publicSeed (depth - low) low one)
    (params.walk publicSeed (depth - low) low other)
  together : params.walk publicSeed (depth + 1 - low) low one =
    params.walk publicSeed (depth + 1 - low) low other
  collision : params.ChainCollision publicSeed depth (params.walk publicSeed (depth - low) low one)
    (params.walk publicSeed (depth - low) low other)

/-- Walks from different values to one end join on the way. -/
theorem exists_joins {low : Nat} {one other : Bytes} (oneSized : one.length = params.elementSize)
    (otherSized : other.length = params.elementSize) (different : one ≠ other)
    (same : params.walk publicSeed (ladderSteps - low) low one =
      params.walk publicSeed (ladderSteps - low) low other) :
    ∃ depth, low ≤ depth ∧ depth < ladderSteps ∧ params.Joins publicSeed low depth one other := by
  rcases params.walk_eq_cases publicSeed oneSized otherSized same with equal | ⟨taken, within, merge⟩
  · exact absurd equal different
  · have steps : low + taken - low = taken := Nat.add_sub_cancel_left ..
    have further : low + taken + 1 - low = taken + 1 := by omega
    refine ⟨low + taken, Nat.le_add_right .., by omega, ?_, ?_, ?_⟩
    · rwa [steps]
    · rw [further, walk_succ, walk_succ, merge.merged]
    · rw [steps]
      exact merge.collision

/-- Bodies with one public seed and the same claimed ends have different values on some ladder. -/
theorem exists_apart {message left right : Bytes} (leftWhole : left.length = params.bodySize)
    (rightWhole : right.length = params.bodySize) (different : left ≠ right)
    (seeds : left.take seedSize = right.take seedSize)
    (ends : params.claimedEnds message left = params.claimedEnds message right) :
    ∃ (ladder : Nat) (digit : UInt8) (one other : Bytes),
      (params.digits message)[ladder]? = some digit ∧
      (params.bodyValues left)[ladder]? = some one ∧
      (params.bodyValues right)[ladder]? = some other ∧ one ≠ other ∧
      params.walk (left.take seedSize) (ladderSteps - digit.toNat) digit.toNat one =
        params.walk (left.take seedSize) (ladderSteps - digit.toNat) digit.toNat other := by
  have values : params.bodyValues left ≠ params.bodyValues right := by
    intro same
    have rests : left.drop seedSize = right.drop seedSize := by
      rw [← params.flatten_bodyValues leftWhole, same, params.flatten_bodyValues rightWhole]
    apply different
    rw [← List.take_append_drop seedSize left, seeds, rests, List.take_append_drop]
  obtain ⟨ladder, apart⟩ : ∃ ladder : Nat,
      (params.bodyValues left)[ladder]? ≠ (params.bodyValues right)[ladder]? := by
    by_cases agree : ∀ ladder : Nat,
        (params.bodyValues left)[ladder]? = (params.bodyValues right)[ladder]?
    · exact absurd (List.ext_getElem? agree) values
    · exact Classical.not_forall.1 agree
  -- Beyond the last ladder neither body has a value.
  have inside : ladder < params.ladders := by
    apply Nat.lt_of_not_le
    intro beyond
    apply apart
    have leftShort : (params.bodyValues left).length ≤ ladder := by
      rwa [params.length_bodyValues leftWhole]
    have rightShort : (params.bodyValues right).length ≤ ladder := by
      rwa [params.length_bodyValues rightWhole]
    rw [List.getElem?_eq_none leftShort, List.getElem?_eq_none rightShort]
  obtain ⟨digit, atDigit⟩ := exists_digit inside message
  obtain ⟨one, atOne⟩ := params.exists_bodyValue leftWhole inside
  obtain ⟨other, atOther⟩ := params.exists_bodyValue rightWhole inside
  have leftEnd := params.getElem?_claimedEnds atDigit atOne
  have rightEnd := params.getElem?_claimedEnds atDigit atOther
  rw [ends, rightEnd, Option.some.injEq, ← seeds] at leftEnd
  refine ⟨ladder, digit, one, other, atDigit, atOne, atOther, ?_, leftEnd.symm⟩
  rintro rfl
  exact apart (atOne.trans atOther.symm)

end Params

/-! ### What an accepted signature contains -/

/-- An accepted signature taken apart as it is decoded: its level and body, the ends to which the
values in the body are walked, and the public key that is hashed from them. -/
structure Opening (message signature : Bytes) (publicKey : PublicKey) where
  level : Level
  body : Bytes
  tagged : signature = level.tag :: body
  whole : body.length = level.params.bodySize
  walked : level.params.traverse (body.take seedSize) (body.drop seedSize) (.decode message) =
    .ok ((level.params.claimedEnds message body).flatten, none)
  hashed : publicKey = publicKeyHash.digest
    (compressionInput (body.take seedSize) (level.params.claimedEnds message body))

namespace Opening

variable {message left right signature : Bytes} {leftKey rightKey publicKey : PublicKey}

def seed (opening : Opening message signature publicKey) : Bytes := opening.body.take seedSize

def ends (opening : Opening message signature publicKey) : List Bytes :=
  opening.level.params.claimedEnds message opening.body

/-- The values in the body, one for each ladder. -/
def values (opening : Opening message signature publicKey) : List Bytes :=
  opening.level.params.bodyValues opening.body

/-- What is hashed into the public key. -/
def input (opening : Opening message signature publicKey) : Bytes :=
  compressionInput opening.seed opening.ends

/-- Whatever is decoded can be taken apart in this way. -/
theorem of_decoded (decoded : (decodeSignature message signature).outcome = .ok publicKey) :
    Nonempty (Opening message signature publicKey) := by
  obtain ⟨level, body, rfl, whole, claimed⟩ := decodeSignature_ok decoded
  have untabled : level.params.tableOf (.decode message) = none := rfl
  have walked := level.params.traverse_untabled (body.take seedSize)
    (level.params.length_drop_seed whole) untabled
  have ends : level.params.walked (body.take seedSize) (body.drop seedSize)
      (level.params.plannedSpans (.decode message)) =
        (level.params.claimedEnds message body).flatten :=
    congrArg List.flatten (level.params.walks_decode message body)
  rw [ends] at walked
  exact ⟨level, body, rfl, whole, walked, claimed.symm⟩

variable (one : Opening message left leftKey) (other : Opening message right rightKey)

theorem length_seed (opening : Opening message signature publicKey) :
    opening.seed.length = seedSize := by
  rw [seed, List.length_take, opening.whole, Params.bodySize]
  exact Nat.min_eq_left (Nat.le_add_right ..)

theorem ends_sized (opening : Opening message signature publicKey) :
    ∀ value ∈ opening.ends, value.length = opening.level.params.elementSize :=
  opening.level.params.claimedEnds_sized message opening.body

/-- The input of the hash has a length of its own at every level. -/
theorem length_input (opening : Opening message signature publicKey) :
    opening.input.length = publicKeySize + opening.level.params.bodySize := by
  have count : opening.ends.length = opening.level.params.ladders :=
    opening.level.params.length_claimedEnds message opening.whole
  rw [input, length_compressionInput, opening.length_seed,
    Bytes.length_flatten_of_sized opening.ends_sized, count, Params.bodySize]
  omega

variable {one other} in
/-- The input of the hash shows the level, the public seed and the ends of all ladders. -/
theorem eq_of_input (same : one.input = other.input) :
    one.level = other.level ∧ one.seed = other.seed ∧ one.ends = other.ends := by
  have sizes : one.level.params.bodySize = other.level.params.bodySize := by
    have lengths := congrArg List.length same
    rw [one.length_input, other.length_input] at lengths
    exact Nat.add_left_cancel lengths
  have levels : one.level = other.level := Level.bodySize_inj sizes
  have otherSized : ∀ value ∈ other.ends, value.length = one.level.params.elementSize := by
    rw [levels]
    exact other.ends_sized
  have seeds : one.seed.length = other.seed.length := by rw [one.length_seed, other.length_seed]
  exact ⟨levels, compressionInput_inj one.level.params.elementSize_pos seeds one.ends_sized
    otherSized same⟩

/-- Two signatures with one tag and one public seed have different values on a ladder, which the
walks from its digit on bring together at a depth. -/
structure Meets (ladder depth : Nat) : Prop where
  level : one.level = other.level
  seed : one.seed = other.seed
  below : depth < ladderSteps
  joins : ∃ digit value value',
    (one.level.params.digits message)[ladder]? = some digit ∧ digit.toNat ≤ depth ∧
    one.values[ladder]? = some value ∧ other.values[ladder]? = some value' ∧
    one.level.params.Joins one.seed digit.toNat depth value value'

/-- Different inputs of the public key's hash with the same digest. -/
def Collides : Prop :=
  one.input ≠ other.input ∧ publicKeyHash.digest one.input = publicKeyHash.digest other.input

variable {one other} in
/-- Different signatures with the same input of the hash have values that meet on some ladder. -/
theorem exists_meets (different : left ≠ right) (same : one.input = other.input) :
    ∃ ladder depth, one.Meets other ladder depth := by
  obtain ⟨levels, seeds, ends⟩ := eq_of_input same
  have bodies : one.body ≠ other.body := by
    intro equal
    apply different
    rw [one.tagged, other.tagged, levels, equal]
  have otherWhole : other.body.length = one.level.params.bodySize := by
    rw [levels, other.whole]
  have otherEnds : one.level.params.claimedEnds message one.body =
      one.level.params.claimedEnds message other.body := by
    change one.ends = _
    rw [ends, levels]
    rfl
  have otherValues : one.level.params.bodyValues other.body = other.values := by
    rw [levels]
    rfl
  obtain ⟨ladder, digit, value, value', atDigit, atOne, atOther, apart, together⟩ :=
    one.level.params.exists_apart one.whole otherWhole bodies seeds otherEnds
  have oneSized : value.length = one.level.params.elementSize :=
    one.level.params.bodyValues_sized value (List.mem_of_getElem? atOne)
  have otherSized : value'.length = one.level.params.elementSize :=
    one.level.params.bodyValues_sized value' (List.mem_of_getElem? atOther)
  obtain ⟨depth, above, below, joins⟩ :=
    one.level.params.exists_joins one.seed oneSized otherSized apart together
  rw [otherValues] at atOther
  exact ⟨ladder, depth, levels, seeds, below, digit, value, value', atDigit, above, atOne, atOther,
    joins⟩

end Opening

/-- Two different signatures that are both accepted for a message differ in what is hashed into
their public keys, or two values of one ladder meet on their walks.  Signatures with different tags
or public seeds always differ in what is hashed.  So if the public keys are the same, then the public
key's hash collides or the hash of a chain step does. -/
theorem signature_binding {message left right : Bytes} {leftKey rightKey : PublicKey}
    (leftDecoded : (decodeSignature message left).outcome = .ok leftKey)
    (rightDecoded : (decodeSignature message right).outcome = .ok rightKey)
    (different : left ≠ right) :
    ∃ (one : Opening message left leftKey) (other : Opening message right rightKey),
      (one.input ≠ other.input ∨ ∃ ladder depth, one.Meets other ladder depth) ∧
      (one.level.tag ≠ other.level.tag ∨ one.seed ≠ other.seed → one.input ≠ other.input) ∧
      (leftKey = rightKey →
        (one.Collides other ∨ ∃ ladder depth, one.Meets other ladder depth) ∧
        (one.level.tag ≠ other.level.tag ∨ one.seed ≠ other.seed → one.Collides other)) := by
  obtain ⟨one⟩ := Opening.of_decoded leftDecoded
  obtain ⟨other⟩ := Opening.of_decoded rightDecoded
  have separated : one.input ≠ other.input ∨ ∃ ladder depth, one.Meets other ladder depth := by
    by_cases same : one.input = other.input
    · exact Or.inr (Opening.exists_meets different same)
    · exact Or.inl same
  have shown : one.level.tag ≠ other.level.tag ∨ one.seed ≠ other.seed →
      one.input ≠ other.input := by
    intro apart same
    obtain ⟨levels, seeds, -⟩ := Opening.eq_of_input same
    rcases apart with tags | other
    · exact tags (congrArg Level.tag levels)
    · exact other seeds
  refine ⟨one, other, separated, shown, ?_⟩
  intro keys
  have digests : publicKeyHash.digest one.input = publicKeyHash.digest other.input :=
    one.hashed.symm.trans (keys.trans other.hashed)
  exact ⟨separated.imp_left fun inputs => ⟨inputs, digests⟩, fun apart => ⟨shown apart, digests⟩⟩

/-- A signature of a level with nothing but zeros after the tag. -/
def Level.zeroSignature (level : Level) : Bytes :=
  level.tag :: List.replicate level.params.bodySize 0

theorem Level.decode_zeroSignature (level : Level) (message : Bytes) :
    ∃ publicKey, (decodeSignature message level.zeroSignature).outcome = .ok publicKey := by
  rw [zeroSignature, decodeSignature_tagged,
    level.params.decode_whole message List.length_replicate]
  exact ⟨_, rfl⟩

/-- Two signatures that differ in their tags and have nothing but zeros otherwise. -/
theorem signature_binding_zeros :
    ∃ leftKey rightKey,
      (decodeSignature [] Level.level0.zeroSignature).outcome = .ok leftKey ∧
      (decodeSignature [] Level.consensus.zeroSignature).outcome = .ok rightKey ∧
      Level.level0.zeroSignature ≠ Level.consensus.zeroSignature ∧
      ∃ (one : Opening [] Level.level0.zeroSignature leftKey)
        (other : Opening [] Level.consensus.zeroSignature rightKey), one.input ≠ other.input := by
  obtain ⟨leftKey, leftDecoded⟩ := Level.level0.decode_zeroSignature []
  obtain ⟨rightKey, rightDecoded⟩ := Level.consensus.decode_zeroSignature []
  have different : Level.level0.zeroSignature ≠ Level.consensus.zeroSignature := by
    intro same
    cases Level.tag_inj (List.head_eq_of_cons_eq same)
  obtain ⟨one, other, -, shown, -⟩ := signature_binding leftDecoded rightDecoded different
  refine ⟨leftKey, rightKey, leftDecoded, rightDecoded, different, one, other, shown (Or.inl ?_)⟩
  have oneTag : Level.level0.tag = one.level.tag := List.head_eq_of_cons_eq one.tagged
  have otherTag : Level.consensus.tag = other.level.tag := List.head_eq_of_cons_eq other.tagged
  rw [← oneTag, ← otherTag]
  decide

end Winternitz
