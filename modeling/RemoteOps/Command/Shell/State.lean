/-
What a shell knows while it runs a script, and the steps it takes.

Processes share a world: files, the streams between commands, numbers
for processes and signals under way.  What else a shell knows is its
own; a subshell starts with a copy of it.
-/
import RemoteOps.Command.Exit
import RemoteOps.Command.Files
import RemoteOps.Command.Script.Basic

namespace RemoteOps

open Script (Command Word)

/-- Where a descriptor leads. -/
inductive Channel where
  /-- Nothing comes from there, and what goes there is gone. -/
  | nothing
  /-- There is no room. -/
  | full
  | directory
  | input (stream : Nat)
  | output (stream : Nat)
  | file (path : String)
deriving DecidableEq, Repr, Inhabited

/-- What processes share. -/
structure World where
  files : Files
  /-- What is left of each input, and of each output all that was
  written, the last first. -/
  streams : Array (List Char) := #[]
  nextProcess : Nat := 2001
  /-- Signals under way to processes that wait for others. -/
  sent : List (Nat × Nat) := []
  /-- Signals that come when time passes. -/
  later : List (Nat × Nat) := []
  /-- How often a command has slept. -/
  sleeps : Nat := 0

/-- A variable, which may have no value yet. -/
structure Variable where
  value : Option String
  exported : Bool := false
  readOnly : Bool := false
deriving DecidableEq, Repr

/-- Commands that are left out, up to the end of what is left. -/
inductive Skip where
  /-- The rest of some loops. -/
  | loops (n : Nat)
  /-- The rest of one turn, of the last of some loops. -/
  | turn (n : Nat)
  /-- The rest of a definition or a file; with a status given or not. -/
  | call (given : Bool)
deriving DecidableEq, Repr

/-- A command that runs beside the script. -/
structure Job where
  process : Nat
  ending : Exit
  /-- Whether it takes time, so that signals still reach it. -/
  lasting : Bool
deriving DecidableEq, Repr

/-- What a signal does to a command that runs beside the script. -/
def Job.strike (signal : Nat) (j : Job) : Job :=
  if j.lasting && Exit.isFatal signal then
    { j with ending := .signal signal, lasting := false }
  else j

/-- What is put back when a command ends. -/
structure Frame where
  /-- Variables as they were, the one remembered last first. -/
  vars : List (String × Option Variable) := []
  /-- The options as they were, if they are put back. -/
  options : Option (List Char) := none
deriving DecidableEq, Repr

/-- A shell. -/
structure Shell where
  world : World
  process : Nat
  /-- The process that this one was made by. -/
  parent : Nat
  /-- The process of the shell that the script belongs to. -/
  shellProcess : Nat
  name : String
  arguments : List String
  vars : Dict Variable
  definitions : Dict Command := .empty
  aliases : Dict String := .empty
  options : List Char := []
  /-- The status of the last command. -/
  last : Nat := 0
  /-- The status of the last substitution of the current command. -/
  lastSubstitution : Nat := 0
  /-- The status that an exit without a number takes. -/
  saved : Option Nat := none
  /-- What is done about signals; an empty action ignores them. -/
  traps : List (Nat × String) := []
  /-- Signals that were ignored from the start. -/
  ignored : List Nat := []
  /-- Signals whose actions are still to be run. -/
  pending : List Nat := []
  descriptors : List (Nat × Channel) := []
  working : String
  loops : Nat := 0
  skip : Option Skip := none
  /-- What is put back when commands end, the innermost first. -/
  frames : List Frame := []
  /-- How deep definitions are within one another. -/
  calls : Nat := 0
  jobs : List Job := []
  lastJob : Option Nat := none
  /-- Where in a group of options the next one is. -/
  optionOffset : Nat := 0
  mask : Nat := 0o22

/-- Why a shell goes no further. -/
inductive Interruption where
  /-- It was told to exit. -/
  | exit
  /-- Something failed that it cannot go on after. -/
  | failed
  /-- It has run all that it was to run. -/
  | finished
  /-- Its process has ended, or runs something else. -/
  | gone (e : Exit)
deriving DecidableEq, Repr

/-- A step of a shell. -/
abbrev Act := EStateM Interruption Shell

/-- How a command is run: whether its failure is looked at, and whether
the shell ends with it. -/
structure Mode where
  tested : Bool := false
  ending : Bool := false

namespace Shell

/-! ### Ends -/

/-- Fails. -/
def fail {α : Type} : Act α := do
  modify fun s => { s with last := 2 }
  throw .failed

/-- Does something and puts something back afterwards, in any case; what
is put back is taken from the shell before and the shell after. -/
def guarding {α : Type} (putBack : Shell → Shell → Shell) (a : Act α) :
    Act α := fun s =>
  match a s with
  | .ok x s' => .ok x (putBack s s')
  | .error h s' => .error h (putBack s s')

/-! ### Variables and options -/

/-- The value of a variable. -/
def value? (s : Shell) (name : String) : Option String :=
  (s.vars.find? name).bind (·.value)

/-- Whether an option is on. -/
def has (s : Shell) (option : Char) : Bool := s.options.contains option

/-- Turns an option on or off. -/
def withOption (s : Shell) (option : Char) (on : Bool) : Shell :=
  let others := s.options.filter (· ≠ option)
  { s with options := if on then others ++ [option] else others }

/-- The letters of the options of a shell, in the order in which they
are shown. -/
def letters : List Char := "pubaCEVvxsnmiIfe".toList

/-- The letters of the options that are on. -/
def optionLetters (s : Shell) : String :=
  String.ofList (letters.filter s.has)

/-- Gives a variable a value, and maybe exports it. -/
def assign (name value : String) (exported : Bool) : Act Unit := do
  let s ← get
  let old := (s.vars.find? name).getD ⟨none, false, false⟩
  if old.readOnly then fail
  let v : Variable :=
    { old with
      value := some value
      exported := old.exported || exported || s.has 'a' }
  set { s with
    vars := s.vars.insert name v
    optionOffset := if name = "OPTIND" then 0 else s.optionOffset }

/-- Remembers a variable, to be put back when the current command
ends. -/
def remember (name : String) : Act Unit :=
  modify fun s =>
    match s.frames with
    | frame :: frames =>
      let old := (name, s.vars.find? name)
      { s with
        frames :=
          { frame with vars := old :: frame.vars } :: frames }
    | [] => s

/-- Remembers the options, to be put back when the current command
ends. -/
def rememberOptions : Act Unit :=
  modify fun s =>
    match s.frames with
    | frame :: frames =>
      let options := frame.options.getD s.options
      { s with frames := { frame with options := some options } :: frames }
    | [] => s

/-- Puts a variable back. -/
def putBackVariable (vars : Dict Variable)
    (old : String × Option Variable) : Dict Variable :=
  match old.2 with
  | some v => vars.insert old.1 v
  | none => vars.erase old.1

/-- Runs a command whose variables and options are put back afterwards. -/
def withFrame {α : Type} (a : Act α) : Act α :=
  guarding (fun before after =>
    match after.frames with
    | frame :: _ =>
      { after with
        vars := frame.vars.foldl putBackVariable after.vars
        options := frame.options.getD after.options
        frames := before.frames }
    | [] => after)
    (do
      modify fun s => { s with frames := {} :: s.frames }
      a)

/-- The variables that other programs are given. -/
def environment (s : Shell) : List (String × String) :=
  s.vars.entries.filterMap fun (name, v) =>
    if v.exported then v.value.map ((name, ·)) else none

/-! ### Descriptors -/

/-- Where a descriptor leads, if it is open. -/
def channel? (s : Shell) (fd : Nat) : Option Channel :=
  s.descriptors.lookup fd

/-- Opens or closes a descriptor. -/
def setChannel (s : Shell) (fd : Nat) (channel : Option Channel) : Shell :=
  let others := s.descriptors.filter (·.1 ≠ fd)
  { s with
    descriptors :=
      match channel with
      | some c => (fd, c) :: others
      | none => others }

/-- Makes a stream. -/
def newStream (text : List Char) : Act Nat := do
  let s ← get
  set { s with
    world := { s.world with streams := s.world.streams.push text } }
  return s.world.streams.size

/-- What is in a stream. -/
def stream (s : Shell) (k : Nat) : List Char :=
  s.world.streams.getD k []

/-- Changes what is in a stream. -/
def setStream (k : Nat) (text : List Char) : Act Unit :=
  modify fun s =>
    { s with
      world :=
        { s.world with streams := s.world.streams.setIfInBounds k text } }

/-- Writes a text; whether there was room. -/
def writeTo (channel : Option Channel) (text : String) : Act Bool := do
  if text = "" then return true
  match channel with
  | some .nothing => return true
  | some (.output k) =>
    setStream k (text.toList.reverse ++ (← get).stream k)
    return true
  | some (.file path) =>
    modify fun s =>
      let old :=
        match s.world.files.find? path with
        | some (.text old) => old
        | _ => ""
      { s with
        world :=
          { s.world with files := s.world.files.write path (old ++ text) } }
    return true
  | _ => return false

/-- Writes a text to the standard output; the status of having done
so. -/
def print (text : String) : Act Nat := do
  let ok ← writeTo ((← get).channel? 1) text
  return if ok then 0 else 1

/-- Reads all that is left of the standard input; none if it cannot be
read. -/
def readAll : Act (Option (List Char)) := do
  let s ← get
  match s.channel? 0 with
  | some .nothing => return some []
  | some (.input k) =>
    setStream k []
    return some (s.stream k)
  | _ => return none

/-- Reads a byte of the standard input, if there is one. -/
def readByte : Act (Option Char) := do
  let s ← get
  match s.channel? 0 with
  | some (.input k) =>
    match s.stream k with
    | c :: rest =>
      setStream k rest
      return some c
    | [] => return none
  | _ => return none

/-! ### Signals -/

/-- What is done about a signal, if anything is. -/
def trap? (s : Shell) (signal : Nat) : Option String :=
  s.traps.lookup signal

/-- Whether there are actions for signals. -/
def hasTraps (s : Shell) : Bool := s.traps.any (·.2 ≠ "")

/-- Whether a signal is ignored. -/
def ignores (s : Shell) (signal : Nat) : Bool :=
  Exit.canBeHandled signal &&
    (s.ignored.contains signal || s.trap? signal = some "")

/-- Takes a signal. -/
def take (signal : Nat) : Act Unit := do
  let s ← get
  if s.ignores signal then return
  match s.trap? signal with
  | some _ =>
    if Exit.canBeHandled signal then
      set { s with
        pending := (signal :: s.pending.filter (· ≠ signal)).mergeSort }
    else if Exit.isFatal signal then throw (.gone (.signal signal))
  | none =>
    if Exit.isFatal signal then throw (.gone (.signal signal))

/-- Takes the signals that have been sent meanwhile, and passes on those
to what runs beside the script. -/
def receive : Act Unit := do
  let s ← get
  let (mine, others) := s.world.sent.partition (·.1 = s.process)
  let isJob (target : Nat) : Bool :=
    s.jobs.any fun j => j.process = target
  let struck (j : Job) : Job :=
    (others.filter (·.1 = j.process)).foldl
      (fun j (_, signal) => Job.strike signal j) j
  let left := others.filter fun (target, _) => !isJob target
  set { s with
    world := { s.world with sent := left }
    jobs := s.jobs.map struck }
  for (_, signal) in mine do
    if signal ≠ 0 then take signal

/-- Lets time pass: signals from beside the script come. -/
def passTime : Act Unit :=
  modify fun s =>
    { s with
      world :=
        { s.world with sent := s.world.sent ++ s.world.later, later := [] } }

/-- Puts off signals until time passes. -/
def postpone : Act Unit :=
  modify fun s =>
    { s with
      world :=
        { s.world with sent := [], later := s.world.later ++ s.world.sent } }

/-! ### Processes -/

/-- The beginning of a process beside a shell. -/
def child (s : Shell) : Shell :=
  { s with
    world := { s.world with nextProcess := s.world.nextProcess + 1 }
    process := s.world.nextProcess
    parent := s.process
    traps := s.traps.filter (·.2 = "")
    pending := []
    loops := 0
    skip := none
    jobs := [] }

/-- Runs something in a process of its own: only the world is shared. -/
def branch {α : Type} (run : Shell → α × World) : Act α := fun s =>
  let (a, world) := run s.child
  .ok a { s with world }

end Shell

end RemoteOps
