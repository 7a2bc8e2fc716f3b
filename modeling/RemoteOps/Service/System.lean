/-
The operation service together with those who call it, as one machine.

Callers start and stop the service at any time and wait, each by itself,
for the answer; the journal says when each has returned.

* `ServiceSystem.callers_stop`: a stop adds one caller and leaves the
  others alone.
-/
import RemoteOps.Service.Basic

namespace RemoteOps

/-- A service, its surroundings and its callers. -/
structure ServiceSystem (σ : Type) where
  site : Site σ
  service : Service
  /-- Every call that was ever made. -/
  callers : List ServiceCall := []

/-- What can take a step. -/
inductive ServiceTask where
  | loop (i : Nat)
  | call (i : Nat)
  /-- One of the tasks that stop a group of handlers. -/
  | stop (group i : Nat)
  /-- The one who waits for a group of handlers. -/
  | wait (group : Nat)
  | caller (i : Nat)
deriving DecidableEq, Repr

/-- Whether a call has returned.  One that has come to an abnormal end has
not, and never will. -/
def ServiceCall.isOver : ServiceCall → Bool
  | .returned _ => true
  | _ => false

namespace ServiceSystem

variable {σ : Type} (p : Platform σ)

/-- Enters that a caller has returned, if so. -/
def noteReturn (site : Site σ) (i : Nat) (c : ServiceCall) : Site σ :=
  if c.isOver then site.note (.returned i) else site

/-- Adds a caller with the state that its call begins with. -/
def join (s : ServiceSystem σ) (c : CallState σ) : ServiceSystem σ where
  site := noteReturn c.site s.callers.length c.call
  service := c.service
  callers := s.callers ++ [c.call]

/-- A caller starts the service. -/
def start (s : ServiceSystem σ) : ServiceSystem σ :=
  s.join (Startup.begin p s.site s.service)

/-- A caller stops the service. -/
def stop (s : ServiceSystem σ) : ServiceSystem σ :=
  s.join (Takedown.begin s.site s.service)

/-- The answer to a caller, if there is one. -/
def answer? (s : ServiceSystem σ) (i : Nat) :
    Option (Except ServiceError Unit) :=
  match s.callers[i]? with
  | some (.returned r) => some r
  | _ => none

/-- Whether a caller has returned. -/
def hasReturned (i : Nat) (s : ServiceSystem σ) : Bool :=
  (s.answer? i).isSome

/-- The step of a call. -/
def stepCall (s : ServiceSystem σ) : ServiceCall → Option (CallState σ)
  | .startup u => u.step p s.site s.service
  | .takedown t => t.step s.site s.service
  | .returned _ | .unwound => none

/-- The step of a task of the worker. -/
def stepWorker (s : ServiceSystem σ)
    (step : Site σ → Worker → Option (Site σ × Worker)) :
    Option (ServiceSystem σ) := do
  let worker ← s.service.worker
  let (site, worker) ← step s.site worker
  return { s with site, service := { s.service with worker } }

/-- Replaces a group of handlers. -/
def setShutdown (s : ServiceSystem σ) (group : Nat) (d : Shutdown) :
    ServiceSystem σ :=
  { s with service := { s.service with
      shutdowns := s.service.shutdowns.set group d } }

/-- The step of a task. -/
def step (s : ServiceSystem σ) : ServiceTask → Option (ServiceSystem σ)
  | .loop i => s.stepWorker fun site w => Worker.stepLoop p site w i
  | .call i => s.stepWorker fun site w => Worker.stepCall p site w i
  | .stop group i => do
    let d ← s.service.shutdowns[group]?
    let (site, d) ← d.stepTask s.site i
    return { s with site }.setShutdown group d
  | .wait group => do
    let d ← s.service.shutdowns[group]?
    let d ← d.stepWait s.site.now
    return s.setShutdown group d
  | .caller i => do
    let c ← s.callers[i]?
    let c ← s.stepCall p c
    return {
      site := noteReturn c.site i c.call
      service := c.service
      callers := s.callers.set i c.call }

/-- The tasks of the worker. -/
def workerTasks (w : Worker) : List ServiceTask :=
  (List.range w.loops.length).map .loop
    ++ (List.range w.calls.length).map .call

/-- The tasks of a group of handlers. -/
def groupTasks (s : Service) (group : Nat) : List ServiceTask :=
  match s.shutdowns[group]? with
  | some d =>
    (List.range d.tasks.length).map (.stop group) ++ [.wait group]
  | none => []

/-- The tasks of a service and its callers. -/
def tasks (s : ServiceSystem σ) : List ServiceTask :=
  s.service.worker.toList.flatMap workerTasks
    ++ (List.range s.service.shutdowns.length).flatMap
      (groupTasks s.service)
    ++ (List.range s.callers.length).map .caller

/-- When a call wakes by itself. -/
def callWake? : ServiceCall → Option Nat
  | .startup u => u.due?
  | .takedown t => t.due?
  | .returned _ | .unwound => none

/-- The times at which the tasks wake. -/
def wakes (s : ServiceSystem σ) : List Nat :=
  s.service.worker.toList.flatMap Worker.wakes
    ++ s.service.shutdowns.flatMap Shutdown.wakes
    ++ s.callers.filterMap callWake?

/-- A service and its callers as a machine. -/
def machine : Machine (ServiceSystem σ) ServiceTask where
  tasks := tasks
  step := step p
  now s := s.site.now
  setNow s now := { s with site := { s.site with now } }
  wakes := wakes

/-- Goes on until a caller has returned. -/
def await (fuel i : Nat) (s : ServiceSystem σ) : ServiceSystem σ :=
  (machine p).runUntil fuel (hasReturned i) s

theorem callers_stop (s : ServiceSystem σ) :
    s.stop.callers
      = s.callers ++ [(Takedown.begin s.site s.service).call] := rfl

end ServiceSystem

end RemoteOps
