/-
Processes of a shell: how texts are run as scripts, how a shell ends,
and what runs beside it.

Everything here is told how a single command is run, so that it can be
used while that is being defined.
-/
import RemoteOps.Command.Script.Grammar
import RemoteOps.Command.Shell.Expansion

namespace RemoteOps.Shell

/-- How a command is run: its status. -/
abbrev Runner := Mode → Script.Command → Act Nat

/-! ### Texts as scripts -/

/-- Runs the lines of a text, given how signals are looked after; the
status is the one of the last command. -/
def runLines (look : Act Unit) (run : Runner) (mode : Mode) :
    Nat → List Char → Nat → Act Nat
  | 0, _, status => return status
  | fuel + 1, cs, status => do
    match Script.line (← get).aliases cs with
    | .broken => fail
    | .ended => return status
    | .commands none _ rest =>
      look
      if (← get).skip.isSome then return status
      runLines look run mode fuel rest status
    | .commands (some c) last rest =>
      let status ← run { mode with ending := mode.ending && last } c
      if (← get).skip.isSome then return status
      runLines look run mode fuel rest status

/-- How many lines a text can have. -/
def lineBound (cs : List Char) : Nat := cs.length + 1000

mutual

/-- Runs the actions for signals that have come, unless commands are
being left out; the status stays. -/
def runTraps (run : Runner) : Nat → Act Unit
  | 0 => return
  | fuel + 1 => do
    let s ← get
    if s.pending.isEmpty || s.skip.isSome then return
    let status := s.saved.getD s.last
    set { s with saved := some status, pending := [] }
    runActions run fuel status s.pending
    modify fun after => { after with saved := s.saved }

/-- Runs the actions for some signals. -/
def runActions (run : Runner) : Nat → Nat → List Nat → Act Unit
  | 0, _, _ => return
  | _, _, [] => return
  | fuel + 1, status, signal :: rest => do
    let s ← get
    if s.skip.isSome then
      set { s with pending := signal :: rest }
    else
      match s.trap? signal with
      | some action =>
        let cs := action.toList
        let _ ← runLines (runTraps run fuel) run {} (lineBound cs) cs 0
        unless (← get).skip = some (.call true) do
          modify fun s => { s with last := status }
      | none => pure ()
      runActions run fuel status rest

end

/-- How deep actions for signals can be within one another. -/
def trapDepth : Nat := 200

/-- Runs the actions for signals that have come. -/
def lookAfterSignals (run : Runner) : Act Unit := runTraps run trapDepth

/-- Runs a text as a script. -/
def runText (run : Runner) (mode : Mode) (text : String) : Act Nat :=
  runLines (lookAfterSignals run) run mode (lineBound text.toList)
    text.toList 0

/-- Runs a text as a file of commands: what is left out ends with it. -/
def runFile (run : Runner) (text : String) : Act Nat := do
  let status ← runText run {} text
  modify fun s =>
    match s.skip with
    | some (.call _) => { s with skip := none }
    | _ => s
  return status

/-- Runs what comes from the standard input as a script.  All of it is
taken at once, so that the commands find nothing left there. -/
def runInput (run : Runner) : Act Nat := do
  match ← readAll with
  | some cs => runFile run (String.ofList cs)
  | none => return 0

/-! ### Ends -/

/-- How a shell ends with a status: its last action is run first. -/
def close (run : Runner) (s : Shell) (status : Nat) : Exit × World :=
  match s.trap? 0 with
  | none | some "" => (.status (status % 256), s.world)
  | some action =>
    let s : Shell :=
      { s with
        traps := s.traps.filter (·.1 ≠ 0)
        saved := some status
        last := status
        skip := none }
    match runText run {} action s with
    | .ok _ s => (.status (status % 256), s.world)
    | .error (.gone e) s => (e, s.world)
    | .error .exit s => (.status (s.saved.getD status % 256), s.world)
    | .error _ s => (.status (s.last % 256), s.world)

/-- How a shell ends that runs something. -/
def conclude (run : Runner) (a : Act Unit) (s : Shell) : Exit × World :=
  match a s with
  | .ok _ s => close run s s.last
  | .error (.gone e) s => (e, s.world)
  | .error .exit s => close run s (s.saved.getD s.last)
  | .error _ s => close run s s.last

/-! ### Branches -/

/-- Runs something in a subshell beside the script. -/
def detach (run : Runner) (a : Act Unit) : Act Exit := do
  let e ← branch (conclude run a)
  postpone
  return e

/-- Runs something in a subshell, to its end. -/
def fork (run : Runner) (a : Act Unit) : Act Exit := do
  let sleeps := (← get).world.sleeps
  let e ← branch (conclude run a)
  if sleeps < (← get).world.sleeps then passTime
  take Exit.childEnded
  return e

/-- What a command writes when it is run in a subshell. -/
def substitute (run : Runner) : Substitute
  | none => return ""
  | some c => do
    let k ← newStream []
    let e ← fork run do
      modify fun s => s.setChannel 1 (some (.output k))
      let _ ← run { ending := true } c
    modify fun s => { s with lastSubstitution := e.shellStatus }
    receive
    let text := ((← get).stream k).reverse
    return String.ofList (text.filter (·.toNat ≠ 0))

end RemoteOps.Shell
