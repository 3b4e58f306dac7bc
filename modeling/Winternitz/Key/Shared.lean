/-
Module: Winternitz.Key.Shared
Purpose: One key used by several threads at once.
Main exports: Cell, Request, Answer, Thread, SharedKey, SharedKey.step, Key.shareAmong
-/
import Winternitz.Key.Basic

namespace Winternitz

/-!
The caches of a shared key are cells that are written once.  A thread that finds
a cell empty claims it, computes the value on its own and publishes it whole;
other threads that want to fill the same cell wait until then.  Between any two
of these steps other threads may take theirs.
-/

/-! ### Cells -/

/-- A cell that is written once. -/
inductive Cell (α : Type) where
  | empty
  /-- The thread with this number is computing the value. -/
  | claimed (owner : Nat)
  | filled (value : α)

namespace Cell

variable {α : Type}

/-- The published value, if there is one yet. -/
def get? : Cell α → Option α
  | filled value => some value
  | _ => none

/-- A cell that nobody is working on. -/
def ofOption : Option α → Cell α
  | some value => filled value
  | none => empty

end Cell

/-! ### Threads -/

inductive Request where
  | computePublicKey
  | generate
  | sign (message : Bytes)
  | publicKey
  | isGenerated
deriving DecidableEq, Repr

inductive Answer where
  | computed (publicKey : PublicKey)
  | generated
  | signed (signature : Bytes)
  | cached (publicKey : Option PublicKey)
  | whetherGenerated (answer : Bool)
deriving DecidableEq, Repr

/-- How far a thread is with its first open request. -/
inductive Phase (params : Params) where
  /-- Nothing done yet. -/
  | ready
  /-- The public key was not there; the thread is about to claim its cell. -/
  | missed
  /-- The thread has claimed the public key's cell and computed the key. -/
  | derived (publicKey : PublicKey)
  /-- The thread has claimed the positions' cell and computed both values. -/
  | recorded (positions : params.Positions) (publicKey : PublicKey)
  /-- The public key is published, the positions are not. -/
  | settled (positions : params.Positions)

/-- A thread: where it stands, its open requests, and its answers so far. -/
structure Thread (params : Params) where
  phase : Phase params
  requests : List Request
  answers : List Answer

namespace Thread

variable {params : Params}

def ofRequests (requests : List Request) : Thread params := ⟨.ready, requests, []⟩

/-- The same thread further on with its first request. -/
def inPhase (thread : Thread params) (phase : Phase params) : Thread params :=
  { thread with phase := phase }

/-- The thread after its first request is answered. -/
def answered (thread : Thread params) (answer : Answer) : Thread params :=
  ⟨.ready, thread.requests.tail, thread.answers ++ [answer]⟩

def finished (thread : Thread params) : Bool := thread.requests.isEmpty

end Thread

/-! ### The shared key -/

/-- A key and the threads that share it, with all events so far. -/
structure SharedKey where
  material : KeyMaterial
  positions : Cell material.params.Positions
  publicKey : Cell PublicKey
  threads : List (Thread material.params)
  events : List Event

namespace SharedKey

/-- The state after the thread with a number has moved. -/
def withThread (shared : SharedKey) (number : Nat) (thread : Thread shared.material.params) :
    SharedKey :=
  { shared with threads := shared.threads.set number thread }

def withEvent (shared : SharedKey) (event : Event) : SharedKey :=
  { shared with events := shared.events ++ [event] }

/-- The next step of a thread, or nothing if it has to wait. -/
def advance (shared : SharedKey) (number : Nat) (thread : Thread shared.material.params) :
    Request → Phase shared.material.params → Except Fault (Option SharedKey)
  | .publicKey, _ =>
      return shared.withThread number (thread.answered (.cached shared.publicKey.get?))
  | .isGenerated, _ =>
      return shared.withThread number
        (thread.answered (.whetherGenerated shared.positions.get?.isSome))
  | .sign message, _ => do
      let signature ← match shared.positions.get? with
        | some positions => shared.material.signByTable positions message
        | none => shared.material.signByWalking message
      return shared.withThread number (thread.answered (.signed signature))
  | .computePublicKey, .missed =>
      match shared.publicKey with
      | .filled publicKey => return shared.withThread number (thread.answered (.computed publicKey))
      | .claimed _ => return none
      | .empty => do
          let publicKey ← shared.material.derivePublicKey
          let claimed : SharedKey := { shared with publicKey := .claimed number }
          return claimed.withThread number (thread.inPhase (.derived publicKey))
  | .computePublicKey, .derived publicKey =>
      let published : SharedKey := { shared with publicKey := .filled publicKey }
      return published.withThread number (thread.answered (.computed publicKey))
  | .computePublicKey, _ =>
      match shared.publicKey.get? with
      | some publicKey =>
          return (shared.withEvent .publicKeyCached).withThread number
            (thread.answered (.computed publicKey))
      | none => return shared.withThread number (thread.inPhase .missed)
  | .generate, .recorded positions publicKey =>
      match shared.publicKey with
      | .filled _ => return shared.withThread number (thread.inPhase (.settled positions))
      | .claimed _ => return none
      | .empty =>
          let published : SharedKey := { shared with publicKey := .filled publicKey }
          return published.withThread number (thread.inPhase (.settled positions))
  | .generate, .settled positions =>
      let published : SharedKey := { shared with positions := .filled positions }
      return published.withThread number (thread.answered .generated)
  | .generate, _ =>
      match shared.positions with
      | .filled _ => return shared.withThread number (thread.answered .generated)
      | .claimed _ => return none
      | .empty => do
          let (positions, publicKey) ← shared.material.record
          let claimed : SharedKey := { shared with positions := .claimed number }
          return (claimed.withEvent (.generatingLadders shared.material.params)).withThread number
            (thread.inPhase (.recorded positions publicKey))

/-- The next step of the thread with a number, or nothing if it has finished or has to wait. -/
def step (shared : SharedKey) (number : Nat) : Except Fault (Option SharedKey) :=
  match shared.threads[number]? with
  | none => return none
  | some thread =>
      match thread.requests with
      | [] => return none
      | request :: _ => shared.advance number thread request thread.phase

/-- A step of the first thread, from a number on, that can take one. -/
def firstStep (shared : SharedKey) : (count number : Nat) → Except Fault (Option SharedKey)
  | 0, _ => return none
  | count + 1, number => do
      match ← shared.step number with
      | some next => return some next
      | none => shared.firstStep count (number + 1)

/-- Runs at most that many steps. -/
def run (shared : SharedKey) : Nat → Except Fault SharedKey
  | 0 => return shared
  | steps + 1 => do
      match ← shared.firstStep shared.threads.length 0 with
      | some next => next.run steps
      | none => return shared

/-- The most steps that one request takes. -/
def stepsPerRequest : Nat := 3

def openRequests (shared : SharedKey) : Nat :=
  shared.threads.foldr (fun thread sum => thread.requests.length + sum) 0

/-- Runs until no thread can move. -/
def runToEnd (shared : SharedKey) : Except Fault SharedKey :=
  shared.run (stepsPerRequest * shared.openRequests)

/-- The key as a single user finds it afterwards. -/
def toKey (shared : SharedKey) : Key :=
  ⟨shared.material, shared.positions.get?, shared.publicKey.get?⟩

end SharedKey

namespace Key

/-- The key in the hands of threads with the given requests. -/
def share (key : Key) (requests : List (List Request)) : SharedKey where
  material := key.material
  positions := .ofOption key.positions
  publicKey := .ofOption key.publicKey
  threads := requests.map .ofRequests
  events := []

/-- Lets threads use the key until all their requests are answered: the answers
of every thread, and the key afterwards. -/
def shareAmong (key : Key) (requests : List (List Request)) : Report (List (List Answer) × Key) :=
  match (key.share requests).runToEnd with
  | .error cause => ⟨.error (.fault cause), []⟩
  | .ok final => ⟨.ok (final.threads.map (·.answers), final.toKey), final.events⟩

end Key

end Winternitz
