/-
Module: Winternitz.Proofs.Caches
Purpose: What the caches of a key hold after any calls, and which events the calls leave behind.
Main exports: Keeps, KeyCached, Params.eventsOf, Params.eventsOfRun, KeyMaterial.CachesAfter,
  KeyMaterial.CachesGrow, CachesAfter.reply, CachesAfter.serve, CachesAfter.exists_after,
  Reached.exists_after, Reached.of_after, Key.caches_of_calls
-/
import Winternitz.Proofs.History

namespace Winternitz

/-!
A cache is empty until the first call that fills it, and from then on holds what
the seeds determine.  Which calls were made, and not what they answered, therefore
says what the caches hold and what was reported on the way.
-/

/-! ### Caches that are filled once -/

/-- Whatever the cache held before, it still holds. -/
def Keeps {α : Type} (before after : Option α) : Prop :=
  ∀ value, before = some value → after = some value

namespace Keeps

variable {α : Type} {first second third : Option α}

theorem refl (cache : Option α) : Keeps cache cache :=
  fun _ held => held

theorem trans (one : Keeps first second) (two : Keeps second third) : Keeps first third :=
  fun value held => two value (one value held)

theorem of_empty (after : Option α) : Keeps none after := by
  intro value held
  cases held

end Keeps

/-! ### What the calls alone say -/

/-- One of these calls has put the public key into its cache. -/
def KeyCached (calls : List Call) : Prop :=
  .request .computePublicKey ∈ calls ∨ .request .generate ∈ calls

instance (calls : List Call) : Decidable (KeyCached calls) :=
  inferInstanceAs (Decidable (_ ∨ _))

@[simp] theorem not_keyCached_nil : ¬ KeyCached [] := by
  simp [KeyCached]

@[simp] theorem keyCached_append (calls run : List Call) :
    KeyCached (calls ++ run) ↔ KeyCached calls ∨ KeyCached run := by
  simp only [KeyCached, List.mem_append]
  exact or_or_or_comm ..

@[simp] theorem keyCached_singleton (call : Call) :
    KeyCached [call] ↔ call = .request .computePublicKey ∨ call = .request .generate := by
  simp [KeyCached, eq_comm]

/-- What a call reports, after the calls before it. -/
def Params.eventsOf (params : Params) (before : List Call) : Call → List Event
  | .request .generate => if .request .generate ∈ before then [] else [.generatingLadders params]
  | .request .computePublicKey => if KeyCached before then [.publicKeyCached] else []
  | _ => []

/-- What a run of calls reports, after the calls before it. -/
def Params.eventsOfRun (params : Params) (before : List Call) : List Call → List Event
  | [] => []
  | call :: calls => params.eventsOf before call ++ params.eventsOfRun (before ++ [call]) calls

namespace KeyMaterial

variable (material : KeyMaterial)

/-- What the caches hold after these calls: nothing up to the first call that fills them, and then
the digest of the ladders' ends and every position of every ladder. -/
structure CachesAfter (calls : List Call) (positions : Option material.params.Positions)
    (publicKey : Option PublicKey) : Prop where
  publicKey_filled : publicKey.isSome = true ↔ KeyCached calls
  publicKey_held : ∀ key, publicKey = some key → key = material.publicKey
  positions_filled : positions.isSome = true ↔ .request .generate ∈ calls
  positions_held : ∀ table, positions = some table → material.Recorded table

/-- How the caches change in a run of calls after earlier ones.  A run without a call that fills a
cache, such as one that only signs, changes neither. -/
structure CachesGrow (calls run : List Call) (positions : Option material.params.Positions)
    (publicKey : Option PublicKey) (positions' : Option material.params.Positions)
    (publicKey' : Option PublicKey) : Prop where
  held : material.CachesAfter (calls ++ run) positions' publicKey'
  positions_kept : Keeps positions positions'
  publicKey_kept : Keeps publicKey publicKey'
  idle : ¬ KeyCached run → positions' = positions ∧ publicKey' = publicKey

end KeyMaterial

/-- A run of calls may be followed by another one. -/
theorem KeyMaterial.CachesGrow.andThen {material : KeyMaterial} {calls first second : List Call}
    {positions positions' positions'' : Option material.params.Positions}
    {publicKey publicKey' publicKey'' : Option PublicKey}
    (one : material.CachesGrow calls first positions publicKey positions' publicKey')
    (two : material.CachesGrow (calls ++ first) second positions' publicKey' positions'' publicKey'') :
    material.CachesGrow calls (first ++ second) positions publicKey positions'' publicKey'' := by
  constructor
  · rw [← List.append_assoc]
    exact two.held
  · exact one.positions_kept.trans two.positions_kept
  · exact one.publicKey_kept.trans two.publicKey_kept
  · intro idle
    rw [keyCached_append, not_or] at idle
    obtain ⟨samePositions, sameKey⟩ := one.idle idle.1
    rw [← samePositions, ← sameKey]
    exact two.idle idle.2

namespace KeyMaterial.CachesAfter

variable {material : KeyMaterial} {calls : List Call}
  {positions : Option material.params.Positions} {publicKey : Option PublicKey}

theorem fresh (material : KeyMaterial) : material.CachesAfter [] none none := by
  constructor <;> simp

/-- The caches are in one of the states in which the answers of a key are known. -/
theorem reached (caches : material.CachesAfter calls positions publicKey) :
    Key.Reached material ⟨material, positions, publicKey⟩ := by
  cases publicKey with
  | none =>
      cases positions with
      | none => exact Key.Reached.fresh
      | some table =>
          -- Generation would have cached the public key as well.
          have generated : .request .generate ∈ calls := caches.positions_filled.1 rfl
          have cached := caches.publicKey_filled.2 (Or.inr generated)
          cases cached
  | some key =>
      rw [caches.publicKey_held key rfl]
      cases positions with
      | none => exact Key.Reached.derived
      | some table => exact Key.Reached.recorded (caches.positions_held table rfl)

/-! ### One call -/

/-- A call that fills no cache leaves both as they were. -/
theorem grow_idle (caches : material.CachesAfter calls positions publicKey) {call : Call}
    (idle : ¬ KeyCached [call]) :
    material.CachesGrow calls [call] positions publicKey positions publicKey := by
  have other : .request .generate ≠ call := by
    rintro rfl
    simp at idle
  refine ⟨?_, Keeps.refl _, Keeps.refl _, fun _ => ⟨rfl, rfl⟩⟩
  constructor
  · rw [keyCached_append, or_iff_left idle]
    exact caches.publicKey_filled
  · exact caches.publicKey_held
  · simpa [other] using caches.positions_filled
  · exact caches.positions_held

theorem publicKey_keeps (caches : material.CachesAfter calls positions publicKey) :
    Keeps publicKey (some material.publicKey) := by
  intro key held
  rw [caches.publicKey_held key held]

/-- Deriving the public key reports that it was cached exactly if an earlier call has cached it. -/
theorem computePublicKey (caches : material.CachesAfter calls positions publicKey) :
    (Key.mk material positions publicKey).computePublicKey =
        ⟨.ok (material.publicKey, ⟨material, positions, some material.publicKey⟩),
          material.params.eventsOf calls (.request .computePublicKey)⟩ ∧
      material.CachesGrow calls [.request .computePublicKey] positions publicKey positions
        (some material.publicKey) := by
  constructor
  · cases publicKey with
    | none =>
        have first : ¬ KeyCached calls := by simp [← caches.publicKey_filled]
        change (Report.ofFault material.derivePublicKey >>= _) = _
        rw [Report.ofFault_bind material.derivePublicKey_eq, Params.eventsOf, if_neg first]
        rfl
    | some key =>
        have later : KeyCached calls := caches.publicKey_filled.1 rfl
        rw [caches.publicKey_held key rfl, Params.eventsOf, if_pos later]
        rfl
  · refine ⟨?_, Keeps.refl _, caches.publicKey_keeps, by simp⟩
    constructor
    · simp
    · simp
    · simpa using caches.positions_filled
    · exact caches.positions_held

/-- Only the first generation does and reports anything. -/
theorem generate (caches : material.CachesAfter calls positions publicKey) :
    ∃ table, (Key.mk material positions publicKey).generate =
        ⟨.ok ⟨material, some table, some material.publicKey⟩,
          material.params.eventsOf calls (.request .generate)⟩ ∧
      material.CachesGrow calls [.request .generate] positions publicKey (some table)
        (some material.publicKey) := by
  have grow {table : material.params.Positions} (complete : material.Recorded table)
      (kept : Keeps positions (some table)) :
      material.CachesGrow calls [.request .generate] positions publicKey (some table)
        (some material.publicKey) := by
    refine ⟨?_, kept, caches.publicKey_keeps, by simp⟩
    constructor <;> simp [complete]
  cases positions with
  | none =>
      have first : .request .generate ∉ calls := by simp [← caches.positions_filled]
      have kept : publicKey.getD material.publicKey = material.publicKey := by
        cases publicKey with
        | none => rfl
        | some key => exact caches.publicKey_held key rfl
      obtain ⟨table, recording, complete⟩ := material.record_spec
      refine ⟨table, ?_, grow complete (Keeps.of_empty _)⟩
      rw [Key.generate_empty recording, kept, Params.eventsOf, if_neg first]
  | some table =>
      have later : .request .generate ∈ calls := caches.positions_filled.1 rfl
      have cached : publicKey = some material.publicKey := by
        cases publicKey with
        | none => cases caches.publicKey_filled.2 (Or.inr later)
        | some key => rw [caches.publicKey_held key rfl]
      refine ⟨table, ?_, grow (caches.positions_held table rfl) (Keeps.refl _)⟩
      rw [cached, Params.eventsOf, if_pos later]
      rfl

theorem reply_of_answer {key after : Key} {request : Request} {answer : Answer}
    {events : List Event} (answered : key.answer request = ⟨.ok (answer, after), events⟩) :
    key.reply (.request request) = ⟨.ok (.answer answer, after), events⟩ :=
  Report.bind_silent answered rfl

/-- Every call answers, and the calls before it determine what it reports. -/
theorem reply (caches : material.CachesAfter calls positions publicKey) (call : Call) :
    ∃ reply positions' publicKey',
      Key.reply ⟨material, positions, publicKey⟩ call =
        ⟨.ok (reply, ⟨material, positions', publicKey'⟩), material.params.eventsOf calls call⟩ ∧
      material.CachesGrow calls [call] positions publicKey positions' publicKey' := by
  cases call with
  | request request =>
      cases request with
      | computePublicKey =>
          obtain ⟨computed, grow⟩ := caches.computePublicKey
          have answered : (Key.mk material positions publicKey).answer .computePublicKey =
              ⟨.ok (.computed material.publicKey, ⟨material, positions, some material.publicKey⟩),
                material.params.eventsOf calls (.request .computePublicKey)⟩ :=
            Report.bind_silent computed rfl
          exact ⟨_, _, _, reply_of_answer answered, grow⟩
      | generate =>
          obtain ⟨table, generated, grow⟩ := caches.generate
          have answered : (Key.mk material positions publicKey).answer .generate =
              ⟨.ok (.generated, ⟨material, some table, some material.publicKey⟩),
                material.params.eventsOf calls (.request .generate)⟩ :=
            Report.bind_silent generated rfl
          exact ⟨_, _, _, reply_of_answer answered, grow⟩
      | sign message =>
          have answered : (Key.mk material positions publicKey).answer (.sign message) =
              ⟨.ok (.signed (material.signatureOf message), ⟨material, positions, publicKey⟩), []⟩ := by
            rw [Key.answer, Report.ofFault_bind (caches.reached.sign message)]
            rfl
          exact ⟨_, _, _, reply_of_answer answered, caches.grow_idle (by simp)⟩
      | publicKey => exact ⟨_, _, _, rfl, caches.grow_idle (by simp)⟩
      | isGenerated => exact ⟨_, _, _, rfl, caches.grow_idle (by simp)⟩
  | publicSeed => exact ⟨_, _, _, rfl, caches.grow_idle (by simp)⟩
  | params => exact ⟨_, _, _, rfl, caches.grow_idle (by simp)⟩
  | inspect spread => exact ⟨_, _, _, rfl, caches.grow_idle (by simp)⟩

/-! ### Runs of calls -/

theorem serve_cons {key between after : Key} {call : Call} {run : List Call} {reply : Reply}
    {replies : List Reply} {first rest : List Event}
    (replied : key.reply call = ⟨.ok (reply, between), first⟩)
    (served : between.serve run = ⟨.ok (replies, after), rest⟩) :
    key.serve (call :: run) = ⟨.ok (reply :: replies, after), first ++ rest⟩ := by
  rw [Key.serve, Report.bind_of_ok replied]
  change Report.mk (between.serve run >>= _).outcome (first ++ (between.serve run >>= _).events) = _
  rw [Report.bind_of_ok served]
  change Report.mk _ (first ++ (rest ++ [])) = _
  rw [List.append_nil]
  rfl

/-- A run of calls answers all of them, and reports of each what the calls before it make it
report. -/
theorem serve (caches : material.CachesAfter calls positions publicKey) (run : List Call) :
    ∃ replies positions' publicKey',
      Key.serve ⟨material, positions, publicKey⟩ run =
        ⟨.ok (replies, ⟨material, positions', publicKey'⟩),
          material.params.eventsOfRun calls run⟩ ∧
      material.CachesGrow calls run positions publicKey positions' publicKey' := by
  induction run generalizing calls positions publicKey with
  | nil =>
      refine ⟨[], positions, publicKey, rfl, ?_, Keeps.refl _, Keeps.refl _, fun _ => ⟨rfl, rfl⟩⟩
      rwa [List.append_nil]
  | cons call run ih =>
      obtain ⟨reply, _, _, replied, first⟩ := caches.reply call
      obtain ⟨replies, positions', publicKey', served, rest⟩ := ih first.held
      exact ⟨reply :: replies, positions', publicKey', serve_cons replied served, first.andThen rest⟩

/-- Every sequence of calls leads a fresh key to caches as these calls leave them. -/
theorem exists_after (material : KeyMaterial) (calls : List Call) :
    ∃ positions publicKey,
      (Key.ofMaterial material).after calls = .ok ⟨material, positions, publicKey⟩ ∧
      material.CachesAfter calls positions publicKey := by
  obtain ⟨replies, positions, publicKey, served, grown⟩ := (fresh material).serve calls
  refine ⟨positions, publicKey, ?_, grown.held⟩
  change ((Key.mk material none none).serve calls).outcome.map _ = _
  rw [served]
  rfl

end KeyMaterial.CachesAfter

namespace Key

namespace Reached

variable {material : KeyMaterial}

/-- From a fresh key every sequence of calls leads to some state, and the ladders are there exactly
if one of the calls was to generate them. -/
theorem exists_after (material : KeyMaterial) (calls : List Call) :
    ∃ used, (Key.ofMaterial material).after calls = .ok used ∧ Reached material used ∧
      (used.isGenerated = true ↔ .request .generate ∈ calls) := by
  obtain ⟨positions, publicKey, called, caches⟩ :=
    KeyMaterial.CachesAfter.exists_after material calls
  exact ⟨⟨material, positions, publicKey⟩, called, caches.reached, caches.positions_filled⟩

/-- A key that was made from the seeds and used in any way is in one of the states. -/
theorem of_after {before used : Key} {calls : List Call}
    (made : Key.fromSeeds material.params material.secretSeed.bytes material.publicSeed.bytes =
      .ok before)
    (called : before.after calls = .ok used) : Reached material used := by
  rw [Key.fromSeeds_seeds] at made
  cases made
  obtain ⟨other, same, reached, -⟩ := exists_after material calls
  rw [called] at same
  cases same
  exact reached

end Reached

/-- Whatever the calls on a key, its caches are empty up to the first call that fills them and hold
from then on what the seeds determine, through every further run of calls; and the calls say which
events were reported: that the ladders are generated by the first call to generate, and that the
public key was found by those calls to compute it that come after one that caches it. -/
theorem caches_of_calls (material : KeyMaterial) (calls run : List Call) :
    ∃ (fresh : Key) (replies more : List Reply)
      (positions positions' : Option material.params.Positions)
      (publicKey publicKey' : Option PublicKey),
      Key.fromSeeds material.params material.secretSeed.bytes material.publicSeed.bytes =
        .ok fresh ∧
      fresh.serve calls =
        ⟨.ok (replies, ⟨material, positions, publicKey⟩), material.params.eventsOfRun [] calls⟩ ∧
      material.CachesAfter calls positions publicKey ∧
      (∀ key, publicKey = some key → compress material.publicSeed.bytes material.ends.flatten
        material.params.elementSize = .ok key) ∧
      (∀ table, positions = some table → ∀ depth ladder, depth ≤ 255 →
        ladder < material.params.ladders →
        table.element depth ladder = .ok (material.position depth ladder)) ∧
      Key.serve ⟨material, positions, publicKey⟩ run =
        ⟨.ok (more, ⟨material, positions', publicKey'⟩), material.params.eventsOfRun calls run⟩ ∧
      material.CachesGrow calls run positions publicKey positions' publicKey' := by
  obtain ⟨replies, positions, publicKey, served, grown⟩ :=
    (KeyMaterial.CachesAfter.fresh material).serve calls
  have caches : material.CachesAfter calls positions publicKey := grown.held
  obtain ⟨more, positions', publicKey', further, grow⟩ := caches.serve run
  refine ⟨Key.ofMaterial material, replies, more, positions, positions', publicKey, publicKey',
    Key.fromSeeds_seeds material.params material.secretSeed material.publicSeed, served, caches,
    ?_, ?_, further, grow⟩
  · intro key held
    rw [caches.publicKey_held key held]
    exact compress_eq material.params.elementSize_pos material.publicSeed.bytes material.ends_sized
  · intro table held depth ladder high wide
    have deep : depth < base := Nat.lt_succ_of_le high
    rw [table.element_eq deep wide, caches.positions_held table held depth ladder deep wide]

end Key

end Winternitz
