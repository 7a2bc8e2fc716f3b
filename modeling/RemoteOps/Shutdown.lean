/-
Stopping components in parallel within a bounded time.

Every component is told to stop by a task of its own.  Whoever waits
for the tasks gets an error only if some are still at work when the time
is over; if they are to be terminated, they are cut off first and get a
short time to be gone.

* `Shutdown.begin?_eq_error`: nothing is begun without components or
  without time;
* `StopTask.step_of_over`: a task that is over does nothing more.
-/
import RemoteOps.Schedule
import RemoteOps.Journal
import RemoteOps.Span

namespace RemoteOps

/-- Why stopping components fails. -/
inductive ShutdownError where
  | noServices
  | invalidTimeout
  | notTerminated (remaining : Nat) (timeout : Span)
deriving DecidableEq, Repr

/-- The text of an error. -/
def ShutdownError.message : ShutdownError → String
  | noServices => "no services to stop"
  | invalidTimeout => "shutdown timeout must be positive"
  | notTerminated remaining timeout =>
    toString remaining ++ " service(s) did not terminate within "
      ++ timeout.render

/-- What a task is doing that stops a component. -/
inductive StopPhase where
  /-- It has not run yet. -/
  | spawned
  /-- The component is stopping. -/
  | stopping (due : Nat)
  | over
deriving DecidableEq, Repr

/-- A task that stops a component. -/
structure StopTask where
  component : Component
  phase : StopPhase := .spawned
  /-- It is to be cut off. -/
  aborted : Bool := false
deriving DecidableEq, Repr

namespace StopTask

/-- Whether a task is over. -/
def isOver (t : StopTask) : Bool := t.phase = .over

/-- The step of a task.  Only a component that stops well says so. -/
def step {σ : Type} (s : Site σ) (t : StopTask) :
    Option (Site σ × StopTask) :=
  if t.isOver then none
  else if t.aborted then some (s, { t with phase := .over })
  else
    match t.phase with
    | .spawned =>
      let due := Clock.after s.now t.component.stopPhase.delay
      some (s.note (.stop t.component), { t with phase := .stopping due })
    | .stopping due =>
      if due ≤ s.now then
        let s :=
          if t.component.stopPhase.ending = .success then
            s.note (.stopped t.component)
          else s
        some (s, { t with phase := .over })
      else none
    | .over => none

/-- When a task wakes. -/
def wake? (t : StopTask) : Option Nat :=
  match t.phase with
  | .stopping due => some due
  | .spawned | .over => none

theorem step_of_over {σ : Type} {s : Site σ} {t : StopTask}
    (h : t.isOver = true) : t.step s = none := by
  simp [step, h]

end StopTask

/-- How far one is who waits for the tasks. -/
inductive ShutdownPhase where
  /-- The tasks have time until the deadline. -/
  | draining (deadline : Nat)
  /-- The tasks are cut off and have time until the deadline. -/
  | terminating (deadline : Nat)
  | finished (r : Except ShutdownError Unit)

/-- Components that are being stopped, and one who waits for them. -/
structure Shutdown where
  tasks : List StopTask
  timeout : Span
  /-- Tasks that are at work when the time is over are cut off. -/
  terminate : Bool
  phase : ShutdownPhase

namespace Shutdown

/-- The time for tasks that are cut off. -/
def grace : Span := .ofMillis 500

/-- Begins to stop components. -/
def begin? (now : Nat) (components : List Component) (timeout : Span)
    (terminate : Bool) : Except ShutdownError Shutdown :=
  if components.isEmpty then .error .noServices
  else if timeout.isZero then .error .invalidTimeout
  else .ok {
    tasks := components.map fun component => { component }
    timeout, terminate
    phase := .draining (timeout.deadline now) }

/-- The number of tasks that are still at work. -/
def remaining (d : Shutdown) : Nat :=
  d.tasks.countP fun t => !t.isOver

/-- How stopping ended, if it did. -/
def result? (d : Shutdown) : Option (Except ShutdownError Unit) :=
  match d.phase with
  | .finished r => some r
  | _ => none

/-- Ends the wait with tasks still at work. -/
def giveUp (d : Shutdown) : Shutdown :=
  { d with phase :=
      .finished (.error (.notTerminated d.remaining d.timeout)) }

/-- The step of the one who waits. -/
def stepWait (now : Nat) (d : Shutdown) : Option Shutdown :=
  match d.phase with
  | .draining deadline =>
    if d.remaining = 0 then some { d with phase := .finished (.ok ()) }
    else if deadline ≤ now then
      if d.terminate then
        some { d with
          tasks := d.tasks.map fun t => { t with aborted := true }
          phase := .terminating (grace.deadline now) }
      else some d.giveUp
    else none
  | .terminating deadline =>
    if d.remaining = 0 then some { d with phase := .finished (.ok ()) }
    else if deadline ≤ now then some d.giveUp
    else none
  | .finished _ => none

/-- The step of one of the tasks. -/
def stepTask {σ : Type} (s : Site σ) (d : Shutdown) (i : Nat) :
    Option (Site σ × Shutdown) := do
  let t ← d.tasks[i]?
  let (s, t) ← t.step s
  return (s, { d with tasks := d.tasks.set i t })

/-- The times at which the tasks and the one who waits wake. -/
def wakes (d : Shutdown) : List Nat :=
  (match d.phase with
    | .draining deadline | .terminating deadline => [deadline]
    | .finished _ => []) ++ d.tasks.filterMap StopTask.wake?

theorem begin?_eq_error {now : Nat} {cs : List Component} {timeout : Span}
    {terminate : Bool} {e : ShutdownError} :
    begin? now cs timeout terminate = .error e
      ↔ cs = [] ∧ e = .noServices
        ∨ cs ≠ [] ∧ timeout.isZero = true ∧ e = .invalidTimeout := by
  unfold begin?
  cases cs <;> cases timeout.isZero <;> simp [eq_comm]

end Shutdown

/-! ### Stopping components, as a machine -/

/-- Components that are being stopped, on a clock of their own. -/
structure ShutdownSystem where
  site : Site Unit
  shutdown : Shutdown

/-- What can take a step. -/
inductive ShutdownTask where
  | stop (i : Nat)
  | wait
deriving DecidableEq, Repr

namespace ShutdownSystem

/-- The step of a task. -/
def step (s : ShutdownSystem) : ShutdownTask → Option ShutdownSystem
  | .stop i => (s.shutdown.stepTask s.site i).map
      fun r => { site := r.1, shutdown := r.2 }
  | .wait => (s.shutdown.stepWait s.site.now).map
      fun shutdown => { s with shutdown }

/-- Stopping components as a machine. -/
def machine : Machine ShutdownSystem ShutdownTask where
  tasks s := (List.range s.shutdown.tasks.length).map .stop ++ [.wait]
  step := step
  now s := s.site.now
  setNow s now := { s with site := { s.site with now } }
  wakes s := s.shutdown.wakes

end ShutdownSystem

end RemoteOps
