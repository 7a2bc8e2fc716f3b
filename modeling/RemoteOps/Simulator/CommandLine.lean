/-
The command line of the simulator.

Arguments are read one after the other, and the first that is wrong
decides.  An option stands with its value in one argument, after an
equals sign, or in the next one; no option may be given twice.  A value
that is not given is taken from the environment, where the option has a
variable, and else from the defaults.
-/

namespace RemoteOps

/-- The options. -/
inductive Flag where
  | interval
  | resultSize
  | shutdownTimeout
  | handlersShutdownTimeout
  | restarts
  | unsupported
  | restartCommand
  | runForSecs
  | jsonLogs
deriving DecidableEq, Repr

namespace Flag

/-- Every option. -/
def all : List Flag :=
  [interval, resultSize, shutdownTimeout, handlersShutdownTimeout,
    restarts, unsupported, restartCommand, runForSecs, jsonLogs]

/-- How an option is written. -/
def long : Flag → String
  | interval => "--interval"
  | resultSize => "--result-size"
  | shutdownTimeout => "--shutdown-timeout"
  | handlersShutdownTimeout => "--handlers-shutdown-timeout"
  | restarts => "--restarts"
  | unsupported => "--unsupported"
  | restartCommand => "--restart-command"
  | runForSecs => "--run-for-secs"
  | jsonLogs => "--json-logs"

/-- The variable that an option is taken from when it is not given. -/
def envName? : Flag → Option String
  | interval => some "DEVAGENT_INTERVAL"
  | resultSize => some "DEVAGENT_RESULT_SIZE"
  | shutdownTimeout => some "DEVAGENT_SHUTDOWN_TIMEOUT"
  | handlersShutdownTimeout =>
    some "DEVAGENT_HANDLERS_SHUTDOWN_TIMEOUT"
  | restartCommand => some "DEVAGENT_RESTART_COMMAND"
  | restarts | unsupported | runForSecs | jsonLogs => none

/-- Whether an option has a value. -/
def hasValue : Flag → Bool
  | jsonLogs => false
  | _ => true

/-- Whether the value of an option is a text and no number. -/
def isText : Flag → Bool
  | restartCommand => true
  | _ => false

/-- The option that is written so. -/
def ofLong? (s : String) : Option Flag := all.find? fun f => f.long = s

end Flag

/-- What the simulator is told. -/
structure SimulatorSettings where
  interval : Nat := 1
  resultSize : Nat := 100
  shutdownTimeout : Nat := 10000
  handlersShutdownTimeout : Nat := 10000
  /-- How many restarts are issued. -/
  restarts : Nat := 2
  /-- How many operations are issued that nobody takes. -/
  unsupported : Nat := 1
  restartCommand : String := "true"
  runForSecs : Option Nat := none
  jsonLogs : Bool := false
deriving DecidableEq, Repr

namespace CommandLine

/-- Why the arguments do not give settings. -/
inductive Stop where
  /-- The version is asked for. -/
  | version
  /-- An argument is wrong. -/
  | wrong (argument : String)
deriving DecidableEq, Repr

/-- A number of 64 bits, with a plus sign or without a sign. -/
def readNat? (s : String) : Option Nat :=
  let cs :=
    match s.toList with
    | '+' :: cs => cs
    | cs => cs
  if cs.isEmpty || !cs.all Char.isDigit then none
  else
    let n := cs.foldl (fun n c => n * 10 + (c.toNat - 48)) 0
    if n < 0x10000000000000000 then some n else none

/-- Whether a value is one for an option. -/
def isValueOf (f : Flag) (value : String) : Bool :=
  f.isText || (readNat? value).isSome

/-- The options that are given, with their values. -/
abbrev Given := List (Flag × String)

/-- Adds an option with its value. -/
def add (given : Given) (f : Flag) (value : String) :
    Except Stop Given :=
  if (given.lookup f).isSome || f.hasValue && !isValueOf f value then
    .error (.wrong f.long)
  else .ok (given ++ [(f, value)])

/-- Whether an argument looks like an option. -/
def looksLikeOption (s : String) : Bool :=
  s.startsWith "-" && s ≠ "-"

/-- Cuts an argument at its first equals sign. -/
def cut (s : String) : String × Option String :=
  let cs := s.toList
  let name := cs.takeWhile (· ≠ '=')
  match cs.dropWhile (· ≠ '=') with
  | [] => (s, none)
  | _ :: value => (String.ofList name, some (String.ofList value))

/-- Reads the arguments. -/
def read (given : Given) : List String → Except Stop Given
  | [] => .ok given
  | arg :: rest =>
    if arg = "--" then
      match rest with
      | [] => .ok given
      | extra :: _ => .error (.wrong extra)
    else if arg = "--version" || arg.startsWith "-V" then .error .version
    else
      let (name, value) := cut arg
      match Flag.ofLong? name, value, rest with
      | none, _, _ => .error (.wrong arg)
      | some f, some value, rest =>
        if f.hasValue then do read (← add given f value) rest
        else .error (.wrong arg)
      | some f, none, rest =>
        if !f.hasValue then do read (← add given f "") rest
        else
          match rest with
          | value :: rest =>
            if looksLikeOption value then .error (.wrong arg)
            else do read (← add given f value) rest
          | [] => .error (.wrong arg)

/-- Takes an option from the environment, if it is not given. -/
def addVariable (env : String → Option String) (given : Given)
    (f : Flag) : Except Stop Given :=
  if (given.lookup f).isSome then .ok given
  else
    match f.envName?.bind env with
    | some value => add given f value
    | none => .ok given

/-- The number that is given for an option. -/
def number? (given : Given) (f : Flag) : Option Nat :=
  (given.lookup f).bind readNat?

/-- The settings for the options that are given. -/
def settings (given : Given) : SimulatorSettings :=
  let d : SimulatorSettings := {}
  let number (f : Flag) (default : Nat) := (number? given f).getD default
  { interval := number .interval d.interval
    resultSize := number .resultSize d.resultSize
    shutdownTimeout := number .shutdownTimeout d.shutdownTimeout
    handlersShutdownTimeout :=
      number .handlersShutdownTimeout d.handlersShutdownTimeout
    restarts := number .restarts d.restarts
    unsupported := number .unsupported d.unsupported
    restartCommand :=
      (given.lookup .restartCommand).getD d.restartCommand
    runForSecs := number? given .runForSecs
    jsonLogs := (given.lookup .jsonLogs).isSome }

/-- The settings for some arguments in an environment. -/
def parse (env : String → Option String) (args : List String) :
    Except Stop SimulatorSettings := do
  let given ← read [] args
  let given ← Flag.all.foldlM (addVariable env) given
  return settings given

end CommandLine

end RemoteOps
