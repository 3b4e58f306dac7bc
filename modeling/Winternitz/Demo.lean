/-
Module: Winternitz.Demo
Purpose: A self-test that makes a key, signs in both ways and checks the signature.
Main exports: Demo.parseLevel, Demo.session, Demo.execute, Demo.runWith, Demo.run
-/
import Winternitz.Demo.Log
import Winternitz.Key.Basic
import Winternitz.Signature.Dispatch

namespace Winternitz.Demo

/-- What a run leaves: its standard output and its exit code. -/
structure Result where
  output : String
  exitCode : UInt32
deriving DecidableEq

def success : UInt32 := 0

/-- The code of a run that could not start. -/
def refused : UInt32 := 1

/-- The code of a run whose own checks failed. -/
def broken : UInt32 := 101

/-- The level named by the first argument, in upper or lower case; the default level without one. -/
def parseLevel : List String → Option Level
  | [] => some .default
  | name :: _ => Level.all.find? fun level => level.name.toLower = name.map Char.toLower

def message : Bytes := "Hello, WOTS+!".toUTF8.toList

/-! ### Runs under way -/

/-- A run under way: it writes lines and events, and may stop with an exit code. -/
abbrev Session := ExceptT UInt32 (StateM (List Entry))

def say (line : String) : Session Unit := modify (· ++ [.line line])

def note (event : LogEvent) : Session Unit := modify (· ++ [.event event])

/-- The events of the library, as a run passes them on. -/
def logged (events : List Event) : List Entry := events.map fun event => .event (.library event)

/-- Makes a call of the library.  Its events are logged, and a broken contract ends the run. -/
def call {α : Type} (report : Report α) : Session (Except Error α) := do
  modify (· ++ logged report.events)
  match report.outcome with
  | .ok value => return .ok value
  | .error (.rejected error) => return .error error
  | .error (.fault _) => throw broken

/-- The result of a call that nothing in a run can make fail. -/
def expect {α : Type} (report : Report α) : Session α := do
  match ← call report with
  | .ok value => return value
  | .error _ => throw broken

/-- The result of a computation that keeps its length contracts. -/
def trust {α : Type} (computation : Except Fault α) : Session α :=
  expect (Report.ofFault computation)

/-- Stops a run unless a check holds. -/
def ensure (holds : Bool) : Session Unit := do
  unless holds do
    throw broken

/-! ### The checks -/

/-- What is said of a call that may be refused. -/
def verdict {α : Type} (wording : Except Error α → String) (report : Report α) : Session Unit := do
  say (wording (← call report))

/-- The outcome of a comparison as an inspected value. -/
def outlineOfCheck : Except Error Bool → Outline
  | .ok holds => .wrapped "Ok" (.flag holds)
  | .error error => .wrapped "Err" error.outline

/-- What is said of a consensus signature that was offered for a transaction. -/
def refusalText : Except Error PublicKey → String
  | .ok _ => "✗ Consensus signature was accepted as a transaction"
  | .error error => "✓ Consensus signature refused for transactions: " ++ error.message

/-- What is said of the public key that a consensus signature leads to. -/
def decodingText (publicKey : PublicKey) (decoded : Except Error PublicKey) : String :=
  "✓ Consensus decode matches public key: " ++
    (outlineOfCheck (decoded.map (· == publicKey))).oneLine

/-- What is said of a signature for a transaction. -/
def verificationText : Except Error Bool → String
  | .ok true => "✓ Signature verification passed"
  | .ok false => "✗ Signature verification failed"
  | .error error => "✗ Signature rejected: " ++ error.message

/-- The check at the consensus level: no transaction, but a sound signature. -/
def checkConsensus (params : Params) (publicKey : PublicKey) (signature : Bytes) : Session Unit := do
  verdict refusalText (decodeTransaction message signature)
  verdict (decodingText publicKey) (params.decode message signature.tail)

/-- The check at the levels for transactions. -/
def checkTransaction (publicKey : PublicKey) (signature : Bytes) : Session Unit :=
  verdict verificationText (verifyTransaction publicKey message signature)

/-! ### Whole runs -/

/-- The self-test of a fresh key at a level. -/
def examine (level : Level) (key : Key) : Session Unit := do
  let (publicKey, key) ← expect key.computePublicKey
  say "✓ Key generation passed"
  let walked ← trust (key.sign message)
  let key ← expect key.generate
  let lookedUp ← trust (key.sign message)
  ensure (walked == lookedUp)
  ensure (walked.length == level.params.signatureSize)
  say ("✓ Signature creation passed (" ++ toString walked.length ++ " bytes)")
  if level = .consensus then
    checkConsensus level.params publicKey walked
  else
    checkTransaction publicKey walked
  note (.completed level)
  say ""
  say "All WOTS+ tests completed!"

/-- The self-test at a level, with seeds from a source. -/
def session {Source : Type} [ByteSource Source] (level : Level) (source : Source) : Session Unit := do
  say ("Testing WOTS+ " ++ level.name ++ " (" ++ level.params.display ++ ")...")
  match ← call (Report.ofError (Key.fromSource level.params source).1) with
  | .ok key => examine level key
  | .error error =>
      note (.keyNotMade error)
      throw refused

/-- What a run did: everything that it wrote, in order, and its exit code. -/
structure Execution where
  entries : List Entry
  exitCode : UInt32

/-- The self-test with these arguments, of which only the first counts. -/
def execute {Source : Type} [ByteSource Source] (arguments : List String) (source : Source) :
    Execution :=
  match parseLevel arguments with
  | none => ⟨[.event .unknownLevel], refused⟩
  | some level =>
      match (session level source).run.run [] with
      | (.ok (), entries) => ⟨entries, success⟩
      | (.error code, entries) => ⟨entries, code⟩

/-- The self-test with a log, which shares standard output with it. -/
def runWith {Source : Type} [ByteSource Source] (log : Log) (arguments : List String)
    (source : Source) : Result :=
  let execution := execute arguments source
  ⟨log.output execution.entries, execution.exitCode⟩

/-- The self-test with its log switched off. -/
def run {Source : Type} [ByteSource Source] (arguments : List String) (source : Source) : Result :=
  runWith .off arguments source

end Winternitz.Demo
