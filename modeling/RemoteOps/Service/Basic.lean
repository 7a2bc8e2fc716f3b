/-
The operation service: it brings the worker up and down.

Startup settles what an earlier run left executing, starts the handlers,
publishes what they execute and starts the worker; the first failing
step ends it, except that a handler that does not start is dropped and
that a failed publication leaves the service without handlers.  A start
of a handler that comes to an abnormal end takes the whole startup with
it, as it stands.  Stopping takes the worker down first and then, in
parallel, the handlers.
-/
import RemoteOps.Config
import RemoteOps.Shutdown
import RemoteOps.Service.Reconcile
import RemoteOps.Worker.Step

namespace RemoteOps

/-- Why a call of the service fails. -/
inductive ServiceError where
  | config (e : ConfigError)
  | duplicate (e : DuplicateKind)
  | alreadyStarted
  /-- A pass over the executing operations failed. -/
  | reconciliation (kind : String) (cause : String)
  /-- The worker that was taken up counts as started. -/
  | workerStarted
  | shutdown (e : ShutdownError)
deriving DecidableEq, Repr

namespace ServiceError

/-- The text of an error. -/
def message : ServiceError → String
  | config e => "invalid operation service configuration: " ++ e.message
  | duplicate e => e.message
  | alreadyStarted => "operation service already started"
  | reconciliation kind _ => "reconciling " ++ kind ++ " operations failed"
  | workerStarted => Worker.alreadyStarted
  | shutdown e => e.message

/-- The texts of what caused an error, outermost first. -/
def causes : ServiceError → List String
  | config e => [e.message]
  | reconciliation _ cause => [cause]
  | duplicate _ | alreadyStarted | workerStarted | shutdown _ => []

end ServiceError

/-- The service. -/
structure Service where
  config : Config
  /-- Whether the device can publish anything. -/
  hasInventory : Bool := true
  /-- The handlers that are not verified yet. -/
  candidates : List Handler
  /-- A start was called. -/
  begun : Bool := false
  /-- The handlers that are at work. -/
  active : HandlerTable := .empty
  worker : Option Worker := none
  /-- The groups of handlers that were ever told to stop. -/
  shutdowns : List Shutdown := []

/-- How far a startup is. -/
inductive Startup where
  /-- It asks for a page of executing operations.  The platform knows pages
  by numbers of 32 bits; where more of them follow than that, the count
  runs over, and nothing is said of such a platform. -/
  | querying (pass : Pass) (page : Nat) (found : List Operation)
    (due : Nat)
  /-- It asks for the installed software. -/
  | inspecting (found : List Operation) (due : Nat)
  /-- It writes a settled operation. -/
  | settling (pass : Pass) (installed : List InstalledSoftware)
    (settled : Operation) (rest : List Operation) (due : Nat)
  /-- It waits for a handler to start. -/
  | starting (kept : HandlerTable) (current : Registration)
    (rest : List Registration) (due : Nat)
  /-- It publishes the kinds of the handlers that have started. -/
  | publishing (table : HandlerTable) (due : Nat)
  /-- It waits for the handlers to stop again. -/
  | undoing (shutdown : Nat)

/-- How far taking the service down is. -/
inductive Takedown where
  /-- The worker finishes its cycle. -/
  | stoppingWorker (h : Halt) (deadline : Nat)
  /-- The worker is cut off. -/
  | abortingWorker (h : Halt) (deadline : Nat)
  /-- The handlers stop. -/
  | stoppingHandlers (shutdown : Nat)

/-- A call of the service. -/
inductive ServiceCall where
  | startup (s : Startup)
  | takedown (t : Takedown)
  | returned (r : Except ServiceError Unit)
  /-- It has come to an abnormal end and does not return. -/
  | unwound

/-- The service on its site, with one of its calls. -/
structure CallState (σ : Type) where
  site : Site σ
  service : Service
  call : ServiceCall

namespace Service

/-- The kinds that are served. -/
def activeKinds (s : Service) : List String := s.active.kindNames

/-- The state of the worker, if there is one. -/
def workerState? (s : Service) : Option WorkerState :=
  s.worker.map (·.state)

/-- How a group of handlers stopped, if they have. -/
def shutdownResult? (s : Service) (i : Nat) :
    Option (Except ShutdownError Unit) :=
  s.shutdowns[i]?.bind (·.result?)

/-- Tells the handlers of a table to stop: the number of their
group. -/
def stopHandlers (now : Nat) (s : Service) (table : HandlerTable) :
    Except ShutdownError (Service × Nat) := do
  let d ← Shutdown.begin? now (table.handlers.map (·.toComponent))
    s.config.handlersShutdownTimeout true
  return ({ s with shutdowns := s.shutdowns ++ [d] }, s.shutdowns.length)

end Service

/-! ### Startup -/

namespace Startup

variable {σ : Type} (p : Platform σ)

/-- A call that has returned. -/
def answer (site : Site σ) (s : Service) (r : Except ServiceError Unit) :
    CallState σ := ⟨site, s, .returned r⟩

/-- Ends a pass that failed. -/
def failPass (site : Site σ) (s : Service) (pass : Pass)
    (cause : String) : CallState σ :=
  answer site s (.error (.reconciliation pass.kind cause))

/-- Takes up the worker with the handlers that are at work. -/
def bringUp (site : Site σ) (s : Service) (table : HandlerTable) :
    CallState σ :=
  let s := { s with active := table }
  match (Worker.new table s.config.pollInterval).start? with
  | some worker => answer site { s with worker := some worker } (.ok ())
  | none => answer site s (.error .workerStarted)

/-- Stops the handlers that have started, since nothing could be
published. -/
def undo (site : Site σ) (s : Service) (table : HandlerTable) :
    CallState σ :=
  if table.isEmpty then bringUp site s .empty
  else
    match s.stopHandlers site.now table with
    | .ok (s, i) => ⟨site, s, .startup (.undoing i)⟩
    | .error _ => bringUp site s .empty

/-- Publishes the kinds of the handlers that have started. -/
def publish (site : Site σ) (s : Service) (table : HandlerTable) :
    CallState σ :=
  if s.hasInventory then
    ⟨site, s, .startup (.publishing table (site.due p .publish))⟩
  else undo site s table

/-- Starts the next handler. -/
def startNext (site : Site σ) (s : Service) (kept : HandlerTable) :
    List Registration → CallState σ
  | [] => publish p site s kept
  | r :: rest =>
    let due := Clock.after site.now r.handler.startPhase.delay
    ⟨site.note (.start r.handler.toComponent), s,
      .startup (.starting kept r rest due)⟩

/-- Verifies the handlers and starts the first one. -/
def verify (site : Site σ) (s : Service) : CallState σ :=
  let candidates := s.candidates
  let s := { s with candidates := [] }
  match HandlerTable.verify candidates with
  | .ok table => startNext p site s .empty table.registrations
  | .error e => answer site s (.error (.duplicate e))

/-- Asks for the first page of a pass. -/
def beginPass (site : Site σ) (s : Service) (pass : Pass) :
    CallState σ :=
  ⟨site, s, .startup (.querying pass 0 [] (site.due p .query))⟩

/-- Settles the next operation of a pass, or goes on after the pass. -/
def settleNext (site : Site σ) (s : Service) (pass : Pass)
    (installed : List InstalledSoftware) : List Operation → CallState σ
  | [] =>
    match pass with
    | .restarts => beginPass p site s .software
    | .software => verify p site s
  | o :: rest =>
    match pass.settle? installed o with
    | .ok o => ⟨site, s,
        .startup (.settling pass installed o rest (site.due p .update))⟩
    | .error e => failPass site s pass e.message

/-- Goes on with all operations of a pass.  The installed software does
not matter when no update is to be settled. -/
def settleAll (site : Site σ) (s : Service) (found : List Operation) :
    Pass → CallState σ
  | .restarts => settleNext p site s .restarts [] found
  | .software =>
    if found.isEmpty then verify p site s
    else
      ⟨site, s, .startup (.inspecting found (site.due p .installed))⟩

/-- Begins a startup.  Only the first one does anything. -/
def begin (site : Site σ) (s : Service) : CallState σ :=
  if s.begun then answer site s (.error .alreadyStarted)
  else
    let s := { s with begun := true }
    match s.config.validate with
    | .ok () => beginPass p site s .restarts
    | .error e => answer site s (.error (.config e))

/-- What a startup does when its time has come. -/
def resume (site : Site σ) (s : Service) : Startup → CallState σ
  | .querying pass page found _ =>
    let (r, site) :=
      site.query p pass.kind .executing s.config.pageSize page
    match r with
    | .error e => failPass site s pass e.message
    | .ok batch =>
      let found := found ++ batch.operations
      if !batch.hasNext || batch.operations.isEmpty then
        settleAll p site s found pass
      else
        ⟨site, s, .startup
          (.querying pass (page + 1) found (site.due p .query))⟩
  | .inspecting found _ =>
    let (r, site) := site.installed p
    match r with
    | .error e => failPass site s .software e.message
    | .ok installed => settleNext p site s .software installed found
  | .settling pass installed o rest _ =>
    let (r, site) := site.update p o
    match r with
    | .error e => failPass site s pass e.message
    | .ok () =>
      let site := site.note (.counted (.reconciled pass.kind o.status))
      settleNext p site s pass installed rest
  | .starting kept r rest _ =>
    match r.handler.startPhase.ending with
    | .success =>
      startNext p (site.note (.started r.handler.toComponent)) s
        (kept.push r) rest
    | .failure _ => startNext p site s kept rest
    | .panic => ⟨site, s, .unwound⟩
  | .publishing table _ =>
    let (r, site) := site.publish p table.kindNames
    match r with
    | .ok () => bringUp site s table
    | .error _ => undo site s table
  | .undoing _ => bringUp site s .empty

/-- When a startup wakes by itself. -/
def due? : Startup → Option Nat
  | .querying _ _ _ due | .inspecting _ due | .settling _ _ _ _ due
  | .starting _ _ _ due | .publishing _ due => some due
  | .undoing _ => none

/-- Whether a startup can go on. -/
def isReady (now : Nat) (s : Service) : Startup → Bool
  | .undoing i => (s.shutdownResult? i).isSome
  | u => u.due?.any (· ≤ now)

/-- The step of a startup. -/
def step (site : Site σ) (s : Service) (u : Startup) :
    Option (CallState σ) :=
  if u.isReady site.now s then some (u.resume p site s) else none

end Startup

/-! ### Taking the service down -/

namespace Takedown

variable {σ : Type}

/-- Tells the handlers that are at work to stop. -/
def stopHandlers (site : Site σ) (s : Service) : CallState σ :=
  let table := s.active
  let s := { s with active := .empty }
  if table.isEmpty then ⟨site, s, .returned (.ok ())⟩
  else
    match s.stopHandlers site.now table with
    | .ok (s, i) => ⟨site, s, .takedown (.stoppingHandlers i)⟩
    | .error e => ⟨site, s, .returned (.error (.shutdown e))⟩

/-- Waits for the worker, with a phase to go on with, or goes on to the
handlers. -/
def await (site : Site σ) (s : Service) (worker : Worker) (h : Halt)
    (t : Halt → Takedown) : CallState σ :=
  let s := { s with worker := some worker }
  if h = .returned then stopHandlers site s
  else ⟨site, s, .takedown (t h)⟩

/-- Begins to take the service down. -/
def begin (site : Site σ) (s : Service) : CallState σ :=
  match s.worker with
  | none => stopHandlers site s
  | some worker =>
    let (worker, h) := worker.beginStop
    await site s worker h fun h =>
      .stoppingWorker h (s.config.shutdownTimeout.deadline site.now)

/-- The step of taking the service down.  A worker that does not finish
in time is cut off; a worker that is not gone in time then is left
behind. -/
def step (site : Site σ) (s : Service) : Takedown → Option (CallState σ)
  | .stoppingWorker h deadline => do
    let worker ← s.worker
    match worker.resume h with
    | some (worker, h) =>
      return await site s worker h (.stoppingWorker · deadline)
    | none =>
      if deadline ≤ site.now then
        let (worker, h) := worker.beginAbort
        return await site s worker h fun h =>
          .abortingWorker h (Shutdown.grace.deadline site.now)
      else none
  | .abortingWorker h deadline => do
    let worker ← s.worker
    match worker.resume h with
    | some (worker, h) =>
      return await site s worker h (.abortingWorker · deadline)
    | none =>
      if deadline ≤ site.now then return stopHandlers site s else none
  | .stoppingHandlers i => do
    match ← s.shutdownResult? i with
    | .ok () => return ⟨site, s, .returned (.ok ())⟩
    | .error e => return ⟨site, s, .returned (.error (.shutdown e))⟩

/-- When it wakes by itself. -/
def due? : Takedown → Option Nat
  | .stoppingWorker _ deadline | .abortingWorker _ deadline =>
    some deadline
  | .stoppingHandlers _ => none

end Takedown

end RemoteOps
