/-
A worker together with those who call it, as one machine.

Callers stop or abort the worker at any time and wait, each by itself,
for what they have to wait for; the journal says when each has returned.
The worker is destroyed once its owner has let go of it and no caller
holds it any more.

* `WorkerSystem.callers_stop`: a stop adds one caller and leaves the
  others alone.
-/
import RemoteOps.Schedule
import RemoteOps.Worker.Step

namespace RemoteOps

/-- A worker, its surroundings and its callers. -/
structure WorkerSystem (σ : Type) where
  site : Site σ
  worker : Worker
  /-- Everyone who ever told the worker to stop or to abort. -/
  callers : List Halt := []
  /-- The owner has let go of the worker. -/
  released : Bool := false
  /-- The worker is gone. -/
  destroyed : Bool := false

/-- What can take a step. -/
inductive WorkerTask where
  | loop (i : Nat)
  | call (i : Nat)
  | caller (i : Nat)
  | destroy
deriving DecidableEq, Repr

namespace WorkerSystem

variable {σ : Type} (p : Platform σ)

/-- Starts the worker, unless it counts as started. -/
def start? (s : WorkerSystem σ) : Option (WorkerSystem σ) :=
  s.worker.start?.map fun worker => { s with worker }

/-- Enters that a caller has returned, if so. -/
def noteReturn (site : Site σ) (i : Nat) (h : Halt) : Site σ :=
  if h = .returned then site.note (.returned i) else site

/-- Adds a caller with the halt that it begins with. -/
def join (s : WorkerSystem σ) : Worker × Halt → WorkerSystem σ
  | (worker, h) => { s with
      worker
      site := noteReturn s.site s.callers.length h
      callers := s.callers ++ [h] }

/-- A caller tells the worker to stop. -/
def stop (s : WorkerSystem σ) : WorkerSystem σ :=
  s.join s.worker.beginStop

/-- A caller tells the worker to abort. -/
def abort (s : WorkerSystem σ) : WorkerSystem σ :=
  s.join s.worker.beginAbort

/-- The owner lets go of the worker. -/
def release (s : WorkerSystem σ) : WorkerSystem σ :=
  { s with released := true }

/-- Whether a caller has returned. -/
def hasReturned (i : Nat) (s : WorkerSystem σ) : Bool :=
  s.callers[i]?.all (· = .returned)

/-- Whether the worker is to be destroyed now. -/
def isAbandoned (s : WorkerSystem σ) : Bool :=
  s.released && !s.destroyed && s.callers.all (· = .returned)

/-- The step of a caller. -/
def stepCaller (s : WorkerSystem σ) (i : Nat) : Option (WorkerSystem σ) :=
  do
    let h ← s.callers[i]?
    let (worker, h) ← s.worker.resume h
    return { s with
      worker
      site := noteReturn s.site i h
      callers := s.callers.set i h }

/-- The step of a task. -/
def step (s : WorkerSystem σ) : WorkerTask → Option (WorkerSystem σ)
  | .loop i => (Worker.stepLoop p s.site s.worker i).map
      fun r => { s with site := r.1, worker := r.2 }
  | .call i => (Worker.stepCall p s.site s.worker i).map
      fun r => { s with site := r.1, worker := r.2 }
  | .caller i => s.stepCaller i
  | .destroy =>
    if s.isAbandoned then
      some { s with worker := s.worker.destroy, destroyed := true }
    else none

/-- The tasks of a worker and its callers. -/
def tasks (s : WorkerSystem σ) : List WorkerTask :=
  (List.range s.worker.loops.length).map .loop
    ++ (List.range s.worker.calls.length).map .call
    ++ (List.range s.callers.length).map .caller ++ [.destroy]

/-- A worker and its callers as a machine. -/
def machine : Machine (WorkerSystem σ) WorkerTask where
  tasks := tasks
  step := step p
  now s := s.site.now
  setNow s now := { s with site := { s.site with now } }
  wakes s := s.worker.wakes

/-- Goes on until a caller has returned. -/
def await (fuel i : Nat) (s : WorkerSystem σ) : WorkerSystem σ :=
  (machine p).runUntil fuel (hasReturned i) s

theorem callers_stop (s : WorkerSystem σ) :
    s.stop.callers = s.callers ++ [s.worker.beginStop.2] := rfl

end WorkerSystem

end RemoteOps
