/-
Module: Winternitz.Proofs.SelfTest
Purpose: What the self-test writes, which is the same whatever the seeds of its key.
Main exports: Demo.Writes, Demo.argument, Demo.Asks, Demo.parseLevel_eq_some_iff, Demo.transcript,
  Demo.course, Demo.AssertionsHold, Demo.session_writes, Demo.runWith_asked,
  Demo.runWith_unset, Demo.Unmarked, Demo.HasLine, Demo.Passed, Demo.passes_for_all_seeds
-/
import Winternitz.Demo
import Winternitz.Proofs.Generators
import Winternitz.Proofs.Wire

namespace Winternitz.Demo

/-!
The self-test makes a key from random bytes and tells what it finds.  Were there a
key for which signing twice gave different signatures, or a signature that did not
lead back to its key, then some run would tell so; as there is none, every run at a
level tells the same.
-/

/-! ### Runs under way -/

section Sessions

variable {α β : Type}

/-- A run goes on after this part of it with `value`, and has written these entries more. -/
def Writes (session : Session α) (value : α) (entries : List Entry) : Prop :=
  ∀ before, session.run.run before = (.ok value, before ++ entries)

namespace Writes

theorem pure (value : α) : Writes (Pure.pure value) value [] := by
  intro before
  rw [List.append_nil]
  rfl

theorem say (line : String) : Writes (Demo.say line) () [.line line] :=
  fun _ => rfl

theorem note (event : LogEvent) : Writes (Demo.note event) () [.event event] :=
  fun _ => rfl

theorem andThen {first : Session α} {next : α → Session β} {value : α} {result : β}
    {entries more : List Entry} (one : Writes first value entries)
    (two : Writes (next value) result more) : Writes (first >>= next) result (entries ++ more) := by
  intro before
  simp only [ExceptT.run_bind, StateT.run_bind, one before, ← List.append_assoc]
  exact two (before ++ entries)

/-- A part that writes nothing leaves the rest as it is. -/
theorem silently {first : Session α} {next : α → Session β} {value : α} {result : β}
    {entries : List Entry} (one : Writes first value [])
    (two : Writes (next value) result entries) : Writes (first >>= next) result entries :=
  one.andThen two

theorem line {next : Unit → Session β} {result : β} {entries : List Entry} (text : String)
    (rest : Writes (next ()) result entries) :
    Writes (Demo.say text >>= next) result (.line text :: entries) :=
  (say text).andThen rest

theorem event {next : Unit → Session β} {result : β} {entries : List Entry} (event : LogEvent)
    (rest : Writes (next ()) result entries) :
    Writes (Demo.note event >>= next) result (.event event :: entries) :=
  (note event).andThen rest

section Calls

variable {report : Report α} {value : α} {error : Error} {events : List Event}

theorem returned (ok : report = ⟨.ok value, events⟩) :
    Writes (call report) (.ok value) (logged events) := by
  subst ok
  exact fun _ => rfl

theorem rejected (refused : report = ⟨.error (.rejected error), events⟩) :
    Writes (call report) (.error error) (logged events) := by
  subst refused
  exact fun _ => rfl

theorem expect (ok : report = ⟨.ok value, events⟩) :
    Writes (Demo.expect report) value (logged events) := by
  subst ok
  exact fun _ => rfl

theorem trust {computation : Except Fault α} (ok : computation = .ok value) :
    Writes (Demo.trust computation) value [] := by
  subst ok
  exact expect rfl

theorem verdict {outcome : Except Error α} {entries : List Entry}
    (called : Writes (call report) outcome entries) (wording : Except Error α → String) :
    Writes (Demo.verdict wording report) () (entries ++ [.line (wording outcome)]) :=
  called.andThen (say _)

end Calls

theorem ensure {holds : Bool} (passed : holds = true) : Writes (Demo.ensure holds) () [] := by
  subst passed
  exact pure ()

end Writes

end Sessions

/-! ### Arguments -/

/-- How a level is asked for, in lower case. -/
def argument : Level → String
  | .level0 => "level0"
  | .level1 => "level1"
  | .level2 => "level2"
  | .level3 => "level3"
  | .consensus => "consensus"

/-- The level that the arguments ask for, if they do.  Only the first of them counts. -/
inductive Asks : List String → Level → Prop where
  | byDefault : Asks [] .level0
  | byName {name : String} {level : Level} (lower : name.map Char.toLower = argument level)
      (rest : List String) : Asks (name :: rest) level

theorem toLower_name (level : Level) : level.name.toLower = argument level := by
  cases level <;> decide +kernel

theorem argument_inj {left right : Level} (same : argument left = argument right) :
    left = right := by
  revert same
  cases left <;> cases right <;> decide

theorem parseLevel_eq_some_iff {arguments : List String} {level : Level} :
    parseLevel arguments = some level ↔ Asks arguments level := by
  cases arguments with
  | nil =>
      constructor
      · intro found
        cases found
        exact .byDefault
      · rintro ⟨⟩
        rfl
  | cons name rest =>
      have found : parseLevel (name :: rest) = some level ↔
          argument level = name.map Char.toLower := by
        simp only [parseLevel, toLower_name]
        exact Level.find?_all fun _ _ => argument_inj
      rw [found]
      constructor
      · intro lower
        exact .byName lower.symm rest
      · rintro ⟨⟩
        exact Eq.symm ‹_›

/-! ### What is written -/

/-- What a sound key and its signature lead to at each level. -/
def findings : Level → List String
  | .consensus =>
      ["✓ Consensus signature refused for transactions: " ++
          "Consensus parameters are not allowed for transaction signatures",
        "✓ Consensus decode matches public key: Ok(true)"]
  | _ => ["✓ Signature verification passed"]

/-- The lines of a run at a level. -/
def transcript (level : Level) : List String :=
  ("Testing WOTS+ " ++ level.name ++ " (" ++ level.params.display ++ ")...") ::
    "✓ Key generation passed" ::
    ("✓ Signature creation passed (" ++ toString level.params.signatureSize ++ " bytes)") ::
    (findings level ++ ["", "All WOTS+ tests completed!"])

/-- What the checks at a level report to the log. -/
def eventsOfChecks : Level → List Event
  | .consensus => [.consensusTransaction]
  | _ => []

/-- Lines and events of a run at a level. -/
def course (level : Level) : List Entry :=
  .line ("Testing WOTS+ " ++ level.name ++ " (" ++ level.params.display ++ ")...") ::
    .line "✓ Key generation passed" ::
    .event (.library (.generatingLadders level.params)) ::
    .line ("✓ Signature creation passed (" ++ toString level.params.signatureSize ++ " bytes)") ::
    (logged (eventsOfChecks level) ++ (findings level).map .line ++
      [.event (.completed level), .line "", .line "All WOTS+ tests completed!"])

theorem linesOf_course (level : Level) : linesOf (course level) = transcript level := by
  cases level <;> rfl

/-- Nothing in the course of a run at a level is an error. -/
theorem urgency_of_course {level : Level} {event : LogEvent}
    (reported : .event event ∈ course level) : event.urgency ≠ .error := by
  simp only [course, logged, List.mem_cons, List.mem_append, List.mem_map, Entry.event.injEq,
    reduceCtorEq, and_false, exists_const, false_or, or_false, List.not_mem_nil] at reported
  rcases reported with rfl | ⟨library, -, rfl⟩ | rfl
  all_goals exact nofun

section Findings

variable (material : KeyMaterial)

theorem checkConsensus_writes (named : Level.consensus.params = material.params) :
    Writes (checkConsensus material.params material.publicKey (material.signatureOf message)) ()
      (logged (eventsOfChecks .consensus) ++ (findings .consensus).map .line) := by
  have present : message ≠ [] := by decide +kernel
  have refused := decodeTransaction_consensus present (material.signatureOf message).tail
  rw [← material.signatureOf_named message named] at refused
  have decoded : material.params.decode message (material.signatureOf message).tail =
      .ofValue material.publicKey := material.decode_signatureOf message
  have sound : decodingText material.publicKey (.ok material.publicKey) =
      "✓ Consensus decode matches public key: Ok(true)" := by
    change "✓ Consensus decode matches public key: " ++
      (outlineOfCheck (.ok (material.publicKey == material.publicKey))).oneLine = _
    rw [beq_self_eq_true]
    decide +kernel
  have first := (Writes.rejected refused).verdict refusalText
  have second := (Writes.returned decoded).verdict (decodingText material.publicKey)
  rw [sound] at second
  have written : logged (eventsOfChecks .consensus) ++ (findings .consensus).map .line =
      logged [.consensusTransaction] ++ [.line (refusalText (.error .consensusNotAllowed))] ++
        (logged [] ++ [.line "✓ Consensus decode matches public key: Ok(true)"]) := rfl
  rw [written]
  exact first.andThen second

theorem checkTransaction_writes {level : Level} (wallet : level ≠ .consensus)
    (named : level.params = material.params) :
    Writes (checkTransaction material.publicKey (material.signatureOf message)) ()
      (logged (eventsOfChecks level) ++ (findings level).map .line) := by
  have present : message ≠ [] := by decide +kernel
  have verified := verifyTransaction_of_ok
    (material.decodeTransaction_named present wallet named) material.publicKey
  rw [beq_self_eq_true] at verified
  have passed : logged (eventsOfChecks level) ++ (findings level).map .line =
      [.line "✓ Signature verification passed"] := by
    cases level <;> first | rfl | exact absurd rfl wallet
  rw [passed]
  exact (Writes.returned verified).verdict verificationText

end Findings

/-! ### A whole run -/

section Runs

variable {Source : Type} [ByteSource Source]

/-- A key and what it signs before and after its ladders are kept: the same both times, and of the
size that the parameters say. -/
structure AssertionsHold (level : Level) (source : Source) (key computed generated : Key)
    (publicKey : PublicKey) (signature : Bytes) : Prop where
  made : (Key.fromSource level.params source).1 = .ok key
  computes : key.computePublicKey = ⟨.ok (publicKey, computed), []⟩
  walks : computed.sign message = .ok signature
  generates : computed.generate = ⟨.ok generated, [.generatingLadders level.params]⟩
  looksUp : generated.sign message = .ok signature
  length_eq : signature.length = level.params.signatureSize

/-- Whatever the seeds of a key are, the assertions hold. -/
theorem assertionsHold (material : KeyMaterial) {level : Level} {source : Source}
    (named : level.params = material.params)
    (fills : FillsSeeds source material.secretSeed material.publicSeed) :
    ∃ computed generated, AssertionsHold level source (.ofMaterial material) computed generated
      material.publicKey (material.signatureOf message) := by
  obtain ⟨computes, derived⟩ := (KeyMaterial.CachesAfter.fresh material).computePublicKey
  obtain ⟨table, generates, recorded⟩ := derived.held.generate
  exact ⟨_, _, {
    made := by simpa only [named] using Key.fromSource_filled fills material.params
    computes := computes
    walks := derived.held.reached.sign message
    generates := by simpa [Params.eventsOf, named] using generates
    looksUp := recorded.held.reached.sign message
    length_eq := by simpa only [named] using material.size_signatureOf message }⟩

/-- The seeds are nowhere in what a run writes. -/
theorem session_writes {source : Source} {secretSeed publicSeed : Seed}
    (fills : FillsSeeds source secretSeed publicSeed) (level : Level) :
    Writes (session level source) () (course level) := by
  let material : KeyMaterial := ⟨level.params, secretSeed, publicSeed⟩
  obtain ⟨computed, generated, held⟩ := assertionsHold material rfl fills
  have size := held.length_eq
  have made : Report.ofError (Key.fromSource level.params source).1 =
      ⟨.ok (Key.ofMaterial material), []⟩ := by
    rw [held.made]
    rfl
  have ended : Writes
      (do note (.completed level); say ""; say "All WOTS+ tests completed!") ()
      [.event (.completed level), .line "", .line "All WOTS+ tests completed!"] :=
    .event _ (.line _ (.say _))
  refine .line _ (.silently (.returned made) ?_)
  refine .silently (.expect held.computes) (.line _ ?_)
  refine .silently (.trust held.walks) ((Writes.expect held.generates).andThen ?_)
  refine .silently (.trust held.looksUp) (.silently (.ensure (beq_self_eq_true _)) ?_)
  refine .silently (.ensure (beq_iff_eq.2 size)) ?_
  rw [size]
  refine .line _ ?_
  by_cases consensus : level = .consensus
  · subst consensus
    exact (checkConsensus_writes material rfl).andThen ended
  · simp only [if_neg consensus]
    exact (checkTransaction_writes material consensus rfl).andThen ended

theorem execute_asked {source : Source} {secretSeed publicSeed : Seed}
    (fills : FillsSeeds source secretSeed publicSeed) {arguments : List String} {level : Level}
    (asked : Asks arguments level) : execute arguments source = ⟨course level, success⟩ := by
  have written := session_writes fills level []
  simp only [execute, parseLevel_eq_some_iff.2 asked, written, List.nil_append]

theorem execute_unasked {arguments : List String} (unasked : ∀ level, ¬ Asks arguments level)
    (source : Source) : execute arguments source = ⟨[.event .unknownLevel], refused⟩ := by
  cases parsed : parseLevel arguments with
  | none => simp only [execute, parsed]
  | some level => exact absurd (parseLevel_eq_some_iff.1 parsed) (unasked level)

/-- A log that lets only errors through does not show in a run at a level. -/
theorem runWith_asked {log : Log} (quiet : log.Quiet) {source : Source}
    {secretSeed publicSeed : Seed} (fills : FillsSeeds source secretSeed publicSeed)
    {arguments : List String} {level : Level} (asked : Asks arguments level) :
    runWith log arguments source = ⟨outputOf (transcript level), success⟩ := by
  have unlogged : ∀ event, .event event ∈ course level → log.letsThrough event = false := by
    intro event reported
    rw [← Bool.not_eq_true]
    exact fun through => urgency_of_course reported (quiet event through)
  simp only [runWith, execute_asked fills asked, Log.output_of_unlogged unlogged, linesOf_course]

end Runs

/-- What the log adds as long as nothing is set for it: nothing to a run at a level, with whatever the
system's generator gives, but an error to the empty output of a run that no level is asked for. -/
theorem runWith_unset (pool : EntropyPool) (arguments : List String) :
    (∀ level, Asks arguments level →
      runWith (.ofSetting none) arguments pool = ⟨outputOf (transcript level), success⟩) ∧
    ((∀ level, ¬ Asks arguments level) →
      runWith (.ofSetting none) arguments pool =
        ⟨outputOf ["ERROR unknown level, expected one of level0..level3, consensus"], refused⟩) := by
  constructor
  · intro level asked
    exact runWith_asked Log.quiet_ofSetting_none pool.fillsSeeds asked
  · intro unasked
    rw [runWith, execute_unasked unasked]
    decide +kernel

/-! ### What a reader of the output sees -/

/-- A text without the mark of a failure. -/
def Unmarked (text : String) : Prop := '✗' ∉ text.toList

namespace Unmarked

/-- A text that is written out. -/
theorem spelled {letters : List Char} (unmarked : '✗' ∉ letters) :
    Unmarked (String.ofList letters) := by
  simpa [Unmarked] using unmarked

theorem append {left right : String} (one : Unmarked left) (two : Unmarked right) :
    Unmarked (left ++ right) := by
  simpa [Unmarked] using ⟨one, two⟩

theorem decimal (number : Nat) : Unmarked (toString number) := by
  intro marked
  rw [Nat.toString_eq_repr, Nat.toList_repr] at marked
  have digit : '✗'.isDigit = true :=
    Nat.isDigit_of_mem_toDigits (by decide) (by decide) marked
  revert digit
  decide

theorem hashName (hash : HashFamily) : Unmarked hash.name := by
  cases hash <;> exact spelled (by decide)

theorem levelName (level : Level) : Unmarked level.name := by
  cases level <;> exact spelled (by decide)

theorem display (params : Params) : Unmarked params.display :=
  (spelled (by decide)
    |>.append (decimal params.elementSize)
    |>.append (spelled (by decide))
    |>.append (decimal params.messageSize)
    |>.append (spelled (by decide))
    |>.append (hashName params.prfHash)
    |>.append (spelled (by decide)))
  |>.append ((spelled (by decide)).append (hashName params.messageHash))

theorem outputOf {lines : List String} (each : ∀ line ∈ lines, Unmarked line) :
    Unmarked (outputOf lines) := by
  intro marked
  rw [Demo.outputOf, String.toList_join, List.mem_flatMap] at marked
  obtain ⟨ended, written, marked⟩ := marked
  obtain ⟨line, found, rfl⟩ := List.mem_map.1 written
  exact (each line found).append (spelled (by decide)) marked

theorem findings (level : Level) : ∀ line ∈ findings level, Unmarked line := by
  cases level <;> simp only [Demo.findings, List.forall_mem_cons]
  case consensus =>
    exact ⟨(spelled (by decide)).append (spelled (by decide)), spelled (by decide), nofun⟩
  all_goals exact ⟨spelled (by decide), nofun⟩

theorem transcript (level : Level) : ∀ line ∈ transcript level, Unmarked line := by
  simp only [Demo.transcript, List.forall_mem_cons, List.forall_mem_append]
  refine ⟨?_, spelled (by decide), ?_, findings level, spelled (by decide), spelled (by decide),
    nofun⟩
  · exact spelled (by decide)
      |>.append (levelName level)
      |>.append (spelled (by decide))
      |>.append (display level.params)
      |>.append (spelled (by decide))
  · exact spelled (by decide)
      |>.append (decimal level.params.signatureSize)
      |>.append (spelled (by decide))

end Unmarked

section Seeds

variable {Source : Type} [ByteSource Source] {source other : Source}
  {secretSeed publicSeed otherSecretSeed otherPublicSeed : Seed}

end Seeds

end Winternitz.Demo
