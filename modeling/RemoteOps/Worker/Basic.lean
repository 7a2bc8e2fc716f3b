/-
The worker: a loop that fetches pending operations one at a time, calls
the handler that owns each, and reports what came of it.

The loop and each call of a handler are tasks of their own; a call that
is made by the loop is in flight until the loop takes notice of its end.
Telling the worker to stop or to abort gives a halt, which waits for
tasks to be gone.

* `Worker.alive_beginStop`: stopping ends no task by itself;
* `Worker.resume_exited`: a halt that waits for the loop goes on only
  once the loop has exited.
-/
import RemoteOps.Journal
import RemoteOps.HandlerTable
import RemoteOps.Operation.Matching
import RemoteOps.Span

namespace RemoteOps

/-- What the loop is doing. -/
inductive LoopPhase where
  /-- It has not run yet. -/
  | spawned
  /-- It waits for the next pending operation. -/
  | polling (due : Nat)
  /-- It writes that an operation failed which nobody takes. -/
  | rejecting (o : Operation) (due : Nat)
  /-- It writes that an operation is being executed. -/
  | claiming (o : Operation) (t : TypedOperation) (h : Handler)
    (due : Nat)
  /-- It waits for the end of a call. -/
  | executing (o : Operation) (call : Nat)
  /-- It writes what came of an operation. -/
  | reporting (o : Operation) (due : Nat)
  /-- It waits for the next poll, or for a signal. -/
  | idle (due : Nat)
  | exited
deriving DecidableEq

/-- A polling loop. -/
structure PollLoop where
  phase : LoopPhase := .spawned
  /-- The last signal that it has seen. -/
  seen : Nat
  /-- It is to be cut off. -/
  aborted : Bool := false
deriving DecidableEq

/-- What a call of a handler is doing. -/
inductive CallPhase where
  /-- It has not run yet. -/
  | spawned
  /-- The handler is at work. -/
  | running (due : Nat) (outcome : Outcome)
  /-- It is over; without an outcome it was cut off. -/
  | ended (outcome : Option Outcome)
deriving DecidableEq

/-- A call of a handler. -/
structure HandlerCall where
  handler : Handler
  operation : TypedOperation
  phase : CallPhase := .spawned
  /-- It is to be cut off. -/
  aborted : Bool := false
deriving DecidableEq

/-- Where a worker is in its life. -/
inductive WorkerState where
  | notStarted
  | started
  | stopped
deriving DecidableEq, Repr, Inhabited

/-- The name of a state. -/
def WorkerState.name : WorkerState → String
  | notStarted => "NotStarted"
  | started => "Started"
  | stopped => "Stopped"

/-- The worker. -/
structure Worker where
  table : HandlerTable
  /-- The wait between polls. -/
  interval : Span
  /-- The loop is to go on. -/
  running : Bool := false
  /-- How many signals were sent to the loop. -/
  signals : Nat := 0
  state : WorkerState := .notStarted
  /-- The loops that were ever started; the last one is the current
  one. -/
  loops : List PollLoop := []
  /-- The calls that were ever made. -/
  calls : List HandlerCall := []
  /-- The call that the loop waits for. -/
  inFlight : Option Nat := none
deriving DecidableEq

/-- How far a caller is who told the worker to stop or to abort. -/
inductive Halt where
  /-- A stop waits for a loop to exit. -/
  | awaitingExit (loop : Nat)
  /-- An abort waits for a loop to be gone. -/
  | abortingLoop (loop : Nat)
  /-- An abort waits for a call to be gone. -/
  | abortingCall (call : Nat)
  | returned
deriving DecidableEq, Repr

/-- Whether a loop has exited. -/
def PollLoop.isOver (l : PollLoop) : Bool := l.phase = .exited

/-- What a call has come to, if it is over. -/
def HandlerCall.result? (c : HandlerCall) : Option (Option Outcome) :=
  match c.phase with
  | .ended r => some r
  | _ => none

/-- Whether a call is over. -/
def HandlerCall.isOver (c : HandlerCall) : Bool := c.result?.isSome

namespace Worker

/-- The shortest wait between polls. -/
def minInterval : Span := .ofMillis 100

/-- A worker that is not started.  A shorter wait than the shortest is
raised to it. -/
def new (table : HandlerTable) (interval : Span) : Worker :=
  { table, interval := interval.max minInterval }

/-- Whether the worker counts as started. -/
def isStarted (w : Worker) : Bool := w.state = .started

/-- Starts a loop, unless the worker counts as started. -/
def start? (w : Worker) : Option Worker :=
  if w.isStarted then none
  else
    some { w with
      running := true
      signals := w.signals + 1
      loops := w.loops ++ [{ seen := w.signals + 1 }]
      state := .started }

/-- The message of a start that is refused. -/
def alreadyStarted : String := "operation worker already started"

/-- The number of the current loop. -/
def current? (w : Worker) : Option Nat :=
  if w.loops.isEmpty then none else some (w.loops.length - 1)

/-- Whether a loop is gone. -/
def loopIsOver (w : Worker) (i : Nat) : Bool :=
  w.loops[i]?.all PollLoop.isOver

/-- Whether a call is gone. -/
def callIsOver (w : Worker) (i : Nat) : Bool :=
  w.calls[i]?.all HandlerCall.isOver

/-- Marks a loop as to be cut off. -/
def abortLoop (w : Worker) (i : Nat) : Worker :=
  { w with loops := w.loops.modify i fun l => { l with aborted := true } }

/-- Marks a call as to be cut off. -/
def abortCall (w : Worker) (i : Nat) : Worker :=
  { w with calls := w.calls.modify i fun c => { c with aborted := true } }

/-- Tells the loop to exit once its cycle is over. -/
def beginStop (w : Worker) : Worker × Halt :=
  let w := { w with running := false, signals := w.signals + 1 }
  match w.current? with
  | some i => (w, .awaitingExit i)
  | none => (w, .returned)

/-- Takes the call in flight and has it cut off, once the loop is
gone. -/
def abortInFlight (w : Worker) : Worker × Halt :=
  match w.inFlight with
  | some i => (({ w with inFlight := none }).abortCall i, .abortingCall i)
  | none => ({ w with state := .stopped }, .returned)

/-- Has the loop cut off. -/
def beginAbort (w : Worker) : Worker × Halt :=
  let w := { w with running := false }
  match w.current? with
  | some i => (w.abortLoop i, .abortingLoop i)
  | none => w.abortInFlight

/-- Goes on with a halt, if what it waits for is gone. -/
def resume (w : Worker) : Halt → Option (Worker × Halt)
  | .awaitingExit i =>
    if w.loopIsOver i then some ({ w with state := .stopped }, .returned)
    else none
  | .abortingLoop i =>
    if w.loopIsOver i then some w.abortInFlight else none
  | .abortingCall i =>
    if w.callIsOver i then some ({ w with state := .stopped }, .returned)
    else none
  | .returned => none

/-- Has everything cut off when nobody holds the worker any more. -/
def destroy (w : Worker) : Worker :=
  let w := { w with running := false }
  let w :=
    match w.current? with
    | some i => w.abortLoop i
    | none => w
  match w.inFlight with
  | some i => ({ w with inFlight := none }).abortCall i
  | none => w

theorem alive_beginStop (w : Worker) :
    w.beginStop.1.loops = w.loops ∧ w.beginStop.1.calls = w.calls := by
  unfold beginStop
  dsimp only
  split <;> exact ⟨rfl, rfl⟩

theorem resume_exited {w w' : Worker} {i : Nat} {h : Halt}
    (hr : w.resume (.awaitingExit i) = some (w', h)) :
    w.loopIsOver i = true ∧ h = .returned := by
  simp only [resume] at hr
  split at hr
  · next ho => cases hr; exact ⟨ho, rfl⟩
  · cases hr

end Worker

end RemoteOps
