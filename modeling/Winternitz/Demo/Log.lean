/-
Module: Winternitz.Demo.Log
Purpose: What a run of the self-test leaves on standard output: its lines, and its log.
Main exports: LogEvent, LogEvent.urgency, Entry, Log, Log.output, Log.ofSetting, Log.Quiet,
  Log.output_of_unlogged
-/
import Winternitz.Error
import Winternitz.Event
import Winternitz.Level

namespace Winternitz.Demo

/-!
A run tells its user line by line what it finds, and reports events to a log that
writes to the same standard output.  Which of them the log lets through is set from
outside, and how it words them may depend on the time, so both are left open here.
-/

/-! ### Events -/

/-- What is reported to the log: the events of the library, and those of a run. -/
inductive LogEvent where
  | library (event : Event)
  | unknownLevel
  | keyNotMade (error : Error)
  | completed (level : Level)

/-- How much an event matters to a reader of the log. -/
inductive Urgency where
  | error
  | info
  | library (severity : Severity)
deriving DecidableEq

namespace Urgency

def name : Urgency → String
  | error => "ERROR"
  | info => "INFO"
  | library .debug => "DEBUG"
  | library .trace => "TRACE"

/-- The place in the order of urgencies, the most urgent first. -/
def rank : Urgency → Nat
  | error => 0
  | info => 1
  | library .debug => 2
  | library .trace => 3

theorem eq_error_of_rank_le {urgency : Urgency} (urgent : urgency.rank ≤ error.rank) :
    urgency = error := by
  rcases urgency with _ | _ | _ | _
  all_goals first | rfl | exact absurd urgent (by decide)

end Urgency

namespace LogEvent

/-- Only what ends a run is an error. -/
def urgency : LogEvent → Urgency
  | library event => .library event.severity
  | unknownLevel | keyNotMade _ => .error
  | completed _ => .info

def message : LogEvent → String
  | library event => event.message
  | unknownLevel => "unknown level, expected one of level0..level3, consensus"
  | keyNotMade _ => "key generation failed"
  | completed _ => "all WOTS+ checks completed"

def fields : LogEvent → List (String × EventField)
  | library event => event.fields
  | unknownLevel => []
  | keyNotMade error => [("err", .text error.message)]
  | completed level => [("level", .text level.name)]

/-- An event in words: how urgent it is, what happened, and the fields by their names. -/
def wording (event : LogEvent) : String :=
  let named (field : String × EventField) : String := " " ++ field.1 ++ "=" ++ field.2.shown
  event.urgency.name ++ " " ++ event.message ++ String.join (event.fields.map named)

end LogEvent

/-! ### Standard output -/

/-- Something that a run writes. -/
inductive Entry where
  | line (text : String)
  | event (event : LogEvent)

/-- The lines among what a run writes. -/
def linesOf : List Entry → List String
  | [] => []
  | .line text :: entries => text :: linesOf entries
  | .event _ :: entries => linesOf entries

/-- Lines as they are written, each ended. -/
def outputOf (lines : List String) : String := String.join (lines.map (· ++ "\n"))

/-- Which events a log lets through, and what it writes for an event, which may differ from one place
of the output to another. -/
structure Log where
  letsThrough : LogEvent → Bool
  text : Nat → LogEvent → String

namespace Log

/-- What one entry adds to standard output at a place. -/
def write (log : Log) (place : Nat) : Entry → String
  | .line text => text ++ "\n"
  | .event event => if log.letsThrough event then log.text place event else ""

/-- What entries leave on standard output, the first of them at a place. -/
def outputFrom (log : Log) (place : Nat) : List Entry → String
  | [] => ""
  | entry :: entries => log.write place entry ++ log.outputFrom (place + 1) entries

def output (log : Log) (entries : List Entry) : String := log.outputFrom 0 entries

/-- The log that is switched off. -/
def off : Log := ⟨fun _ => false, fun _ _ => ""⟩

/-- A log of everything that is as urgent as this, or more. -/
def upTo (least : Urgency) : Log :=
  ⟨fun event => event.urgency.rank ≤ least.rank, fun _ event => event.wording ++ "\n"⟩

/-- The log for a setting; if nothing is set that is understood, there is a log of errors. -/
def ofSetting : Option String → Log
  | some "off" => off
  | some "info" => upTo .info
  | some "debug" => upTo (.library .debug)
  | some "trace" => upTo (.library .trace)
  | _ => upTo .error

/-- A log that lets nothing through but errors. -/
def Quiet (log : Log) : Prop := ∀ event, log.letsThrough event = true → event.urgency = .error

/-- As long as nothing is set, only errors are logged. -/
theorem quiet_ofSetting_none : (ofSetting none).Quiet :=
  fun _ through => Urgency.eq_error_of_rank_le (of_decide_eq_true through)

variable {log : Log}

/-- What the log does not let through leaves the lines as they are. -/
theorem output_of_unlogged {entries : List Entry}
    (unlogged : ∀ event, .event event ∈ entries → log.letsThrough event = false) :
    log.output entries = outputOf (linesOf entries) := by
  suffices from_place : ∀ place, log.outputFrom place entries = outputOf (linesOf entries) from
    from_place 0
  induction entries with
  | nil => exact fun _ => rfl
  | cons entry entries ih =>
      intro place
      have rest := ih (fun event member => unlogged event (List.mem_cons_of_mem _ member)) (place + 1)
      cases entry with
      | line text =>
          rw [outputFrom, rest, write, linesOf, outputOf, outputOf, List.map_cons, String.join_cons]
      | event event =>
          have silent : log.letsThrough event = false := unlogged event List.mem_cons_self
          rw [outputFrom, rest, write, silent, linesOf, if_neg Bool.false_ne_true, String.empty_append]

end Log

end Winternitz.Demo
