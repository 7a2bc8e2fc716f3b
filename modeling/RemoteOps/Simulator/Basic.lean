/-
The simulator: the operation service on a platform in memory.

Operations are issued, the service runs for a while on a clock of its
own, and what has become of the operations is reported.
-/
import RemoteOps.Command.Run
import RemoteOps.Json.Pretty
import RemoteOps.Platform.Memory
import RemoteOps.RestartHandler
import RemoteOps.Service.System
import RemoteOps.Simulator.CommandLine

namespace RemoteOps.Simulator

/-- The version of the simulator. -/
def version : String := "agent-sim 0.1.0"

/-- What a run leaves behind: the exit code and the texts that are
written. -/
structure Output where
  code : Nat
  out : String
  err : String
deriving DecidableEq, Repr

/-- A platform in memory that answers at once, with a handler for
restarts. -/
def platform (restart : RestartHandler) : Platform MemoryPlatform where
  delay _ _ := 0
  poll := MemoryPlatform.poll
  writeStatus := MemoryPlatform.writeStatus
  query := MemoryPlatform.query
  update := MemoryPlatform.update
  publish := MemoryPlatform.publish
  installed m := (.ok m.installedSoftware, m)
  execute m _ t :=
    let e := Command.run? restart.program restart.args
    ({ outcome := restart.execute e t }, m)

/-- Issues a number of operations of a kind, under the numbers of their
places. -/
def issueMany (kind : String) (payload : Json) :
    Nat → MemoryPlatform → MemoryPlatform
  | 0, m => m
  | n + 1, m =>
    let id := "issued-" ++ toString (m.operations.length + 1)
    issueMany kind payload n (m.issue id kind payload)

/-- The raw settings of the service. -/
def source (s : SimulatorSettings) (path : String) : Option String :=
  if path = Setting.interval.key then some (toString s.interval)
  else if path = Setting.resultSize.key then some (toString s.resultSize)
  else if path = Setting.shutdownTimeout.key then
    some (toString s.shutdownTimeout)
  else if path = Setting.handlersShutdownTimeout.key then
    some (toString s.handlersShutdownTimeout)
  else none

/-- The operations that are there when the service starts. -/
def issued (s : SimulatorSettings) : MemoryPlatform :=
  let payload := Json.object [("times", .int 3)]
  issueMany "acme_Blink" payload s.unsupported
    (issueMany Kind.restart (.object []) s.restarts {})

/-- The report on a platform. -/
def report (m : MemoryPlatform) : Json :=
  let supported :=
    match m.supported with
    | some kinds => .array (kinds.map .string)
    | none => .null
  .object [("supported_operations", supported),
    ("operations", .array (m.operations.map Operation.written))]

/-- Runs the service for some seconds and stops it. -/
def runService (restart : RestartHandler) (c : Config)
    (m : MemoryPlatform) (seconds : Nat) : MemoryPlatform :=
  let p := platform restart
  let fuel := Machine.fuelFor m.operations.length
  let s : ServiceSystem MemoryPlatform := {
    site := { world := m }
    service := { config := c, candidates := [RestartHandler.handler 0] } }
  let s := (s.start p).await p fuel 0
  let s := (ServiceSystem.machine p).advance fuel (seconds * 1000) s
  (s.stop.await p fuel 1).site.world

/-- Runs the simulator with some settings.  The command is looked at
before the settings of the service. -/
def runWith (s : SimulatorSettings) : Output :=
  match RestartHandler.ofCommandLine? s.restartCommand with
  | none => ⟨1, "", "Error: restart command must not be empty\n"⟩
  | some restart =>
    match Config.ofSource (source s) with
    | .error e => ⟨1, "", "Error: " ++ e.message ++ "\n"⟩
    | .ok c =>
      let m := runService restart c (issued s) (s.runForSecs.getD 0)
      ⟨0, (report m).pretty ++ "\n", ""⟩

/-- Runs the simulator with some arguments in an environment. -/
def run (env : String → Option String) (args : List String) : Output :=
  match CommandLine.parse env args with
  | .ok s => runWith s
  | .error .version => ⟨0, version ++ "\n", ""⟩
  | .error (.wrong arg) =>
    ⟨2, "", "error: wrong use of the argument '" ++ arg ++ "'\n"⟩

end RemoteOps.Simulator
