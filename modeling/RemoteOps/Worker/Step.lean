/-
The steps of the worker's tasks.

A step of a loop ends where the loop would wait: for an answer of the
platform, for the end of a call, or for the next poll.  A failure
anywhere in a cycle ends the cycle and is counted.  An operation is
counted before what came of it is written.

* `Worker.stepCall_of_over`: a call that is over does nothing more.
-/
import RemoteOps.Worker.Basic

namespace RemoteOps.Worker

variable {σ : Type} (p : Platform σ)

/-! ### The cycle of a loop -/

/-- Begins the next cycle, unless the worker was told to stop. -/
def nextCycle (s : Site σ) (w : Worker) : LoopPhase :=
  if w.running then .polling (s.due p .poll) else .exited

/-- Waits for the next poll. -/
def pause (s : Site σ) (w : Worker) : LoopPhase :=
  .idle (w.interval.deadline s.now)

/-- Ends a cycle that failed. -/
def failCycle (s : Site σ) (w : Worker) : Site σ × LoopPhase :=
  (s.note (.counted .pollErrors), pause s w)

/-- Ends a cycle with the answer to its last write. -/
def endCycle (s : Site σ) (w : Worker) :
    Except Failure Unit → Site σ × LoopPhase
  | .ok () => (s, nextCycle p s w)
  | .error _ => failCycle s w

/-- Fails an operation that nobody takes. -/
def reject (s : Site σ) (w : Worker) (o : Operation) (reason : String) :
    Site σ × LoopPhase :=
  let s := s.note (.counted (.operations .unsupported))
  match o.fail reason with
  | (.ok (), o) => (s, .rejecting o (s.due p .status))
  | (.error _, _) => failCycle s w

/-- Begins with an operation that was handed out. -/
def dispatch (s : Site σ) (w : Worker) (o : Operation) :
    Site σ × LoopPhase :=
  match Matching.convert? o w.table.supportedKinds with
  | none => reject p s w o "no handler supports this operation"
  | some t =>
    match w.table.handlerFor? t.kind with
    | none => reject p s w o ("no handler registered for " ++ t.kind)
    | some h =>
      match o.transitionTo .executing, t.transitionTo .executing with
      | (.ok (), o), (.ok (), t) =>
        (s, .claiming o t h (s.due p .status))
      | _, _ => failCycle s w

/-- Reports what a call has come to. -/
def conclude (s : Site σ) (w : Worker) (o : Operation)
    (r : Option Outcome) : Site σ × LoopPhase :=
  let r := report r
  let s := s.note (.counted (.operations r.verdict))
  match o.transitionTo r.status with
  | (.ok (), o) =>
    (s, .reporting { o with failureReason := r.reason } (s.due p .status))
  | (.error _, _) => failCycle s w

/-! ### Steps -/

/-- Puts a loop into a phase. -/
def setLoop (w : Worker) (i : Nat) (l : PollLoop) (phase : LoopPhase) :
    Worker :=
  { w with loops := w.loops.set i { l with phase } }

/-- Makes a call of a handler and takes it in flight. -/
def spawnCall (w : Worker) (h : Handler) (t : TypedOperation) : Worker :=
  let call : HandlerCall := { handler := h, operation := t }
  { w with calls := w.calls ++ [call], inFlight := some w.calls.length }

/-- The step of a loop that is not to be cut off. -/
def runLoop (s : Site σ) (w : Worker) (i : Nat) (l : PollLoop) :
    Option (Site σ × Worker) :=
  match l.phase with
  | .spawned => some (s, w.setLoop i l (nextCycle p s w))
  | .polling due =>
    if due ≤ s.now then
      let (r, s) := s.poll p
      let (s, phase) :=
        match r with
        | .ok (some o) => dispatch p s w o
        | .ok none => (s, pause s w)
        | .error _ => failCycle s w
      some (s, w.setLoop i l phase)
    else none
  | .rejecting o due =>
    if due ≤ s.now then
      let (r, s) := s.writeStatus p o
      let (s, phase) := endCycle p s w r
      some (s, w.setLoop i l phase)
    else none
  | .claiming o t h due =>
    if due ≤ s.now then
      let (r, s) := s.writeStatus p o
      match r with
      | .ok () =>
        let phase := .executing o w.calls.length
        some (s, (w.spawnCall h t).setLoop i l phase)
      | .error _ =>
        let (s, phase) := failCycle s w
        some (s, w.setLoop i l phase)
    else none
  | .executing o call =>
    match w.calls[call]?.bind HandlerCall.result? with
    | some r =>
      let w := { w with inFlight := none }
      let (s, phase) := conclude p s w o r
      some (s, w.setLoop i l phase)
    | none => none
  | .reporting o due =>
    if due ≤ s.now then
      let (r, s) := s.writeStatus p o
      let (s, phase) := endCycle p s w r
      some (s, w.setLoop i l phase)
    else none
  | .idle due =>
    if due ≤ s.now || w.signals ≠ l.seen then
      some (s,
        w.setLoop i { l with seen := w.signals } (nextCycle p s w))
    else none
  | .exited => none

/-- The step of a loop. -/
def stepLoop (s : Site σ) (w : Worker) (i : Nat) :
    Option (Site σ × Worker) :=
  match w.loops[i]? with
  | some l =>
    if l.isOver then none
    else if l.aborted then some (s, w.setLoop i l .exited)
    else runLoop p s w i l
  | none => none

/-- Puts a call into a phase. -/
def setCall (w : Worker) (i : Nat) (c : HandlerCall) (phase : CallPhase) :
    Worker :=
  { w with calls := w.calls.set i { c with phase } }

/-- The step of a call. -/
def stepCall (s : Site σ) (w : Worker) (i : Nat) :
    Option (Site σ × Worker) :=
  match w.calls[i]? with
  | some c =>
    if c.isOver then none
    else if c.aborted then some (s, w.setCall i c (.ended none))
    else
      match c.phase with
      | .spawned =>
        let (b, s) := s.execute p c.handler c.operation
        let due := Clock.after s.now b.delay
        some (s, w.setCall i c (.running due b.outcome))
      | .running due outcome =>
        if due ≤ s.now then
          let s :=
            if outcome = .panicked then s
            else s.note (.finish c.handler c.operation)
          some (s, w.setCall i c (.ended (some outcome)))
        else none
      | .ended _ => none
  | none => none

/-! ### Waking -/

/-- When a loop wakes by itself. -/
def wake? (l : PollLoop) : Option Nat :=
  match l.phase with
  | .polling due | .rejecting _ due | .claiming _ _ _ due
  | .reporting _ due | .idle due => some due
  | .spawned | .executing _ _ | .exited => none

/-- When a call wakes by itself. -/
def callWake? (c : HandlerCall) : Option Nat :=
  match c.phase with
  | .running due _ => some due
  | .spawned | .ended _ => none

/-- The times at which the tasks wake. -/
def wakes (w : Worker) : List Nat :=
  w.loops.filterMap wake? ++ w.calls.filterMap callWake?

theorem stepCall_of_over {s : Site σ} {w : Worker} {i : Nat}
    (h : w.callIsOver i = true) : stepCall p s w i = none := by
  unfold stepCall
  cases hc : w.calls[i]? with
  | none => rfl
  | some c =>
    have : c.isOver = true := by simpa [callIsOver, hc] using h
    simp [this]

end RemoteOps.Worker
