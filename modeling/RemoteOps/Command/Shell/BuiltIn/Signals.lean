/-
Commands within the shell that work on signals and on what runs beside
the script.

* `Shell.signalNumber?_le`: signals have numbers up to the largest one.
-/
import RemoteOps.Command.Printing
import RemoteOps.Command.Shell.BuiltIn.Options

namespace RemoteOps.Shell

/-! ### Sending -/

/-- The number of a signal that is given by number or by name, the
lowest name being the one of a number. -/
def signalNumber? (least : Nat) (x : String) : Option Nat :=
  match Number.digits? x.toList with
  | some n => if n ≤ Exit.maxSignal then some n else none
  | none => Exit.signalOfName? least x

/-- Sends a signal to a process; whether there is one.  A process that
is neither this one nor beside it waits for it, if it is one of those
that have been made; the number zero stands for all of them.  The signal
zero only asks. -/
def send (signal target : Nat) : Act Bool := do
  let s ← get
  if target = s.process || target = 0 then
    if signal ≠ 0 then take signal
    return true
  else if s.jobs.any fun j => j.process = target then
    let strike (j : Job) : Job :=
      if j.process = target then j.strike signal else j
    set { s with jobs := s.jobs.map strike }
    return true
  else if target = 1 || 2000 ≤ target && target < s.world.nextProcess then
    set { s with
      world := { s.world with sent := s.world.sent ++ [(target, signal)] } }
    return true
  else return false

/-- The process that an argument of `kill` or `wait` names. -/
def processOf (x : String) : Act Nat := do
  match x.toList with
  | '%' :: rest =>
    let s ← get
    match Number.digits? rest with
    | some n =>
      match s.jobs[n - 1]? with
      | some j => return j.process
      | none => fail
    | none =>
      match s.lastJob with
      | some p => return p
      | none => fail
  | _ =>
    match Number.count? x with
    | some n => return n
    | none => fail

/-- Sends a signal to what some arguments name; a hyphen in front names
a group of processes, and so does a percent sign, of which none is
there. -/
def sendAll (signal : Nat) : List String → Nat → Act Nat
  | [], status => return status
  | x :: rest, status => do
    match x.toList with
    | '-' :: cs =>
      match Number.count? (String.ofList cs) with
      | some _ => sendAll signal rest 1
      | none => fail
    | '%' :: _ =>
      let _ ← processOf x
      sendAll signal rest 1
    | _ =>
      let ok ← send signal (← processOf x)
      sendAll signal rest (if ok then status else 1)

/-- Lists the names of signals, or tells the one of a number or of an
exit status. -/
def listSignals (args : List String) : Act Nat := do
  match args with
  | [] =>
    let names := (List.range Exit.maxSignal).map fun n =>
      Exit.sendingName (n + 1) ++ "\n"
    print ("0\n" ++ String.intercalate "" names)
  | x :: _ =>
    match Number.count? x with
    | some n =>
      let n := if n > 128 then n - 128 else n
      if 0 < n && n ≤ Exit.maxSignal then
        print (Exit.sendingName n ++ "\n")
      else fail
    | none => fail

/-- The signal that options of `kill` name, if any do. -/
def signalOption (options : List (Char × String)) : Act (Option Nat) := do
  match options.filter (·.1 = 's') with
  | [] => return none
  | l =>
    let numbers := l.map fun o => signalNumber? 1 o.2
    if numbers.any Option.isNone then fail
    return numbers.getLastD none

/-- Sends signals to processes, or lists signals. -/
def runKill (args : List String) : Act Nat := do
  match args with
  | [] => fail
  | x :: rest =>
    let direct :=
      match x.toList with
      | '-' :: cs => signalNumber? 1 (String.ofList cs)
      | _ => none
    match direct with
    | some signal =>
      if rest.isEmpty then fail else sendAll signal rest 0
    | none =>
      let (options, targets) ← optionsOf "ls:" args
      let signal ← signalOption options
      if options.any (·.1 = 'l') then
        if signal.isSome then fail else listSignals targets
      else if targets.isEmpty then fail
      else sendAll (signal.getD Exit.terminate) targets 0

/-! ### Actions for signals -/

/-- The actions for signals, as commands that would set them. -/
def listTraps (s : Shell) : String :=
  let line (n : Nat) : Option String :=
    (s.trap? n).map fun action =>
      "trap -- " ++ Printing.quote action ++ " " ++ Exit.sendingName n
        ++ "\n"
  String.intercalate ""
    ((List.range (Exit.maxSignal + 1)).filterMap line)

/-- Sets what is done about some signals, or takes it back. -/
def setTraps (action : Option String) : List String → Act Nat
  | [] => return 0
  | x :: rest => do
    match signalNumber? 0 x with
    | none => return 1
    | some signal =>
      modify fun s =>
        let others := s.traps.filter (·.1 ≠ signal)
        { s with
          traps :=
            match action with
            | some a => (signal, a) :: others
            | none => others }
      setTraps action rest

/-- Sets what is done about signals, or lists it. -/
def runTrap (args : List String) : Act Nat := do
  let (_, args) ← optionsOf "" args
  match args with
  | [] => print (listTraps (← get))
  | [x] => setTraps none [x]
  | action :: signals =>
    let isNumber := ((Number.digits? action.toList).filter
      (· ≤ Exit.maxSignal)).isSome
    if isNumber then setTraps none args
    else if action = "-" then setTraps none signals
    else setTraps (some action) signals

/-! ### What runs beside the script -/

/-- Waits for what some arguments name; the status of the last. -/
def waitAll : List String → Nat → Act Nat
  | [], status => return status
  | x :: rest, _ => do
    let target ← processOf x
    match (← get).jobs.find? (·.process = target) with
    | some j => waitAll rest j.ending.shellStatus
    | none => waitAll rest 127

/-- Waits for what runs beside the script; a signal with an action ends
the wait. -/
def runWait (args : List String) : Act Nat := do
  let (_, args) ← optionsOf "" args
  let before := (← get).pending
  passTime
  receive
  let isNew (signal : Nat) : Bool := !before.contains signal
  match ((← get).pending.filter isNew).getLast? with
  | some signal => return 128 + signal
  | none =>
    if !(← get).jobs.isEmpty then take Exit.childEnded
    waitAll args 0

/-- Lists what runs beside the script; whatever did has ended. -/
def runJobs (_args : List String) : Act Nat := return 0

/-- Nothing can be brought to the front or sent to the back. -/
def runForeground (_args : List String) : Act Nat := fail

theorem signalNumber?_le {least n : Nat} {x : String}
    (h : signalNumber? least x = some n) : n ≤ Exit.maxSignal := by
  unfold signalNumber? at h
  split at h
  · split at h
    · next hm =>
      cases h
      exact hm
    · simp at h
  · unfold Exit.signalOfName? at h
    have := List.mem_of_find?_eq_some h
    simp only [List.mem_range] at this
    omega

end RemoteOps.Shell
