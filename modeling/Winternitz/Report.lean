/-
Module: Winternitz.Report
Purpose: Results together with the events that led to them.
Main exports: Failure, Report, Report.emit, Report.reject, Report.ofFault, Report.bind_of_ok,
  Report.bind_silent, Report.bind_of_error, Report.ofFault_bind
-/
import Winternitz.Error
import Winternitz.Event
import Winternitz.Fault

namespace Winternitz

/-- Why a call gives no result. -/
inductive Failure where
  | fault (cause : Fault)
  | rejected (error : Error)
deriving DecidableEq, Repr

/-- What a call returned, and the events on its way, in order.  A failed call
keeps the events that came before the failure. -/
structure Report (α : Type) where
  outcome : Except Failure α
  events : List Event

namespace Report

variable {α β : Type}

def ofValue (value : α) : Report α := ⟨.ok value, []⟩

/-- The next call is made only after a result, and its events follow those so far. -/
def andThen (first : Report α) (next : α → Report β) : Report β :=
  match first.outcome with
  | .error failure => ⟨.error failure, first.events⟩
  | .ok value =>
      let rest := next value
      ⟨rest.outcome, first.events ++ rest.events⟩

instance : Monad Report where
  pure := ofValue
  bind := andThen

def emit (event : Event) : Report Unit := ⟨.ok (), [event]⟩

/-- A refusal without an event of its own. -/
def reject (error : Error) : Report α := ⟨.error (.rejected error), []⟩

/-- A computation that can only break a length contract. -/
def ofFault (computation : Except Fault α) : Report α :=
  match computation with
  | .ok value => ofValue value
  | .error cause => ⟨.error (.fault cause), []⟩

/-- A check that refuses without an event of its own. -/
def ofError (check : Except Error α) : Report α :=
  match check with
  | .ok value => ofValue value
  | .error error => reject error

/-- After a first call that returned, the events of the second follow those of the first. -/
theorem bind_of_ok {first : Report α} {value : α} {events : List Event}
    (ok : first = ⟨.ok value, events⟩) (next : α → Report β) :
    first >>= next = ⟨(next value).outcome, events ++ (next value).events⟩ := by
  rw [ok]
  rfl

/-- A second call without events leaves those of the first. -/
theorem bind_silent {first : Report α} {value : α} {events : List Event} {next : α → Report β}
    {result : β} (ok : first = ⟨.ok value, events⟩) (silent : next value = ⟨.ok result, []⟩) :
    first >>= next = ⟨.ok result, events⟩ := by
  rw [bind_of_ok ok, silent, List.append_nil]

/-- A call that failed is not followed by another one. -/
theorem bind_of_error {first : Report α} {failure : Failure} {events : List Event}
    (failed : first = ⟨.error failure, events⟩) (next : α → Report β) :
    first >>= next = ⟨.error failure, events⟩ := by
  rw [failed]
  rfl

/-- A computation in which no contract was broken leaves no trace but its value. -/
theorem ofFault_bind {computation : Except Fault α} {value : α} (ok : computation = .ok value)
    (next : α → Report β) : ofFault computation >>= next = next value := by
  rw [ok]
  rfl

end Report

end Winternitz
