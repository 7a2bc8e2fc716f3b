/-
How a shell runs the commands of a script.

A command is run in parts, each of which is run the same way; how deep
commands are within one another is bounded, and beyond the bound the
shell ends by a signal, as one whose memory is used up.
-/
import RemoteOps.Command.Shell.BuiltIn.Table

namespace RemoteOps.Shell

open Script (Command Word Piece Redirection)

/-! ### Finding commands -/

/-- What a name stands for as a command. -/
inductive Target where
  | definition (body : Command)
  | builtIn
  | program
  | missing

/-- How the words of a simple command are read. -/
structure Resolved where
  words : List String
  target : Target
  /-- Whether the first name is one of a special command. -/
  special : Bool
  /-- The place to look for programs, if not the usual one. -/
  searchPath : Option String

/-- Whether a command that a word starts with is one within the
shell. -/
def isBuiltInHere (s : Shell) (skipDefinitions : Bool) (name : String) :
    Bool :=
  isBuiltIn name && (skipDefinitions || !s.definitions.contains name)

/-- Expands words up to the first that makes a field. -/
def expandFirst (substitute : Substitute) : List Word →
    Act (List String × List Word)
  | [] => return ([], [])
  | w :: rest => do
    match ← expandFields substitute w with
    | [] => expandFirst substitute rest
    | fields => return (fields, rest)

/-- The words after `command` and its options, and whether the usual
search path is asked for; none if it is to be described what a command
is, or if there is no word. -/
def afterCommand (substitute : Substitute) : Nat → List String →
    List Word → Bool → Act (List String × List Word × Option Bool)
  | 0, have_, left, _ => return (have_, left, none)
  | fuel + 1, have_, left, usual => do
    let (more, left) ←
      if have_.length < 2 then expandFirst substitute left
      else pure ([], left)
    let have_ := have_ ++ more
    match have_ with
    | name :: x :: rest =>
      match x.toList with
      | ['-', '-'] =>
        let (more, left) ←
          if rest.isEmpty then expandFirst substitute left
          else pure ([], left)
        match rest ++ more with
        | [] => return (have_, left, none)
        | words => return (words, left, some usual)
      | '-' :: c :: cs =>
        if (c :: cs).all (· = 'p') then
          match ← afterCommand substitute fuel (name :: rest) left true with
          | (_, left, none) => return (have_, left, none)
          | r => return r
        else return (have_, left, none)
      | _ => return (x :: rest, left, some usual)
    | _ => return (have_, left, none)

/-- Finds out which command some words stand for. -/
def resolveName (substitute : Substitute) : Nat → List String →
    List Word → Option Bool → Bool → Option String →
    Act (List String × List Word × Option Bool × Bool × Option String)
  | 0, have_, left, special, skip, path =>
    return (have_, left, special, skip, path)
  | fuel + 1, have_, left, special, skip, path => do
    let name := have_.headD ""
    if !isBuiltInHere (← get) skip name then
      return (have_, left, special, skip, path)
    let special := some (special.getD (isSpecial name))
    if name ≠ "command" then return (have_, left, special, skip, path)
    match ← afterCommand substitute 100 have_ left false with
    | (have_, left, none) => return (have_, left, special, false, path)
    | (have_, left, some usual) =>
      let path := if usual then some usualPath else path
      resolveName substitute fuel have_ left special true path

/-- Whether a word gives a name a value. -/
def isAssignment (w : Word) : Bool := (Script.assignment? w).isSome

/-- Expands the further words of a command, of which some give values to
names. -/
def expandArguments (substitute : Substitute) (assigning : Bool) :
    List Word → Act (List String)
  | [] => return []
  | w :: rest => do
    let fields ←
      if assigning && isAssignment w then do
        match Script.assignment? w with
        | some (name, value) =>
          let value ← expandValue substitute value
          pure [name ++ "=" ++ value]
        | none => pure []
      else expandFields substitute w
    return fields ++ (← expandArguments substitute assigning rest)

/-- Expands the words of a simple command and finds out which command
they stand for. -/
def resolve (substitute : Substitute) (words : List Word) :
    Act Resolved := do
  let (first, left) ← expandFirst substitute words
  if first.isEmpty then return ⟨[], .builtIn, false, none⟩
  let (have_, left, special, skip, path) ←
    resolveName substitute 100 first left none false none
  let name := have_.headD ""
  let s ← get
  let isHere := isBuiltInHere s skip name
  let more ← expandArguments substitute (isHere && isAssigning name) left
  let target : Target :=
    if isHere then .builtIn
    else
      match if skip then none else s.definitions.find? name with
      | some body => .definition body
      | none => .program
  return ⟨have_ ++ more, target, special = some true, path⟩

/-! ### Simple commands -/

/-- How deep definitions can be within one another. -/
def callDepth : Nat := 1000

/-- Calls a definition. -/
def call (run : Runner) (mode : Mode) (body : Command)
    (args : List String) : Act Nat := do
  if callDepth ≤ (← get).calls then fail
  guarding (fun before after =>
    { after with
      arguments := before.arguments
      loops := before.loops
      calls := before.calls
      optionOffset := before.optionOffset
      skip :=
        match after.skip with
        | some (.call _) => none
        | skip => skip })
    (do
      modify fun s =>
        { s with
          arguments := args, loops := 0, calls := s.calls + 1
          optionOffset := 0 }
      let _ ← run { tested := mode.tested } body
      return (← get).last)

/-- Gives values to names in front of a command; they are put back
afterwards unless they are to be kept. -/
def assignFront (substitute : Substitute) (keep exported : Bool) :
    List (String × Word) → Act Unit
  | [] => return
  | (name, w) :: rest => do
    let value ← expandValue substitute w
    if keep then assign name value exported
    else
      remember name
      assign name value true
    assignFront substitute keep exported rest

/-- Runs a program, in the place of the shell if that ends anyway. -/
def launch (run : Runner) (mode : Mode) (path : String)
    (words : List String) : Act Nat := do
  if mode.ending && !(← get).hasTraps then becomeProgram run path words
  else
    let e ← fork run do
      let _ ← becomeProgram run path words
    receive
    return e.shellStatus

/-- Runs a command within the shell; a failure ends the shell only if
the command is special. -/
def runBuiltIn (run : Runner) (mode : Mode) (special : Bool)
    (words : List String) : Act Nat := do
  match builtIn? run mode (words.headD "") (words.drop 1) with
  | none => return (← get).lastSubstitution
  | some a =>
    let a : Act Nat := do
      let status ← a
      modify fun s => { s with last := status }
      return status
    if special then a
    else
      try a
      catch
        | .failed => return (← get).last
        | h => throw h

/-- Runs a simple command whose redirections have been made. -/
def runResolved (run : Runner) (mode : Mode) (r : Resolved)
    (assignments : List (String × Word)) : Act Nat := do
  let isExec := r.words.headD "" = "exec"
  let keeps := r.words.isEmpty ||
    (match r.target with | .builtIn => r.special | _ => false)
  let exported := isExec && 1 < r.words.length
  assignFront (substitute run) keeps exported assignments
  match r.target with
  | .definition body => call run mode body (r.words.drop 1)
  | .builtIn => runBuiltIn run mode r.special r.words
  | .program | .missing =>
    match findProgram? (← get) r.searchPath (r.words.headD "") with
    | some path => launch run mode path r.words
    | none =>
      modify fun s => { s with last := 127 }
      return 127

/-- Runs a simple command. -/
def runSimple (run : Runner) (mode : Mode)
    (assignments : List (String × Word)) (words : List Word)
    (redirections : List Redirection) : Act Nat := do
  modify fun s => { s with lastSubstitution := 0 }
  let r ← resolve (substitute run) words
  let isExec := r.words.headD "" = "exec"
    && (match r.target with | .builtIn => true | _ => false)
  let body : Act Nat := do
    let redirections ←
      redirections.mapM (expandRedirection (substitute run))
    let status ← redirectAll redirections
    if status ≠ 0 then
      modify fun s => { s with last := status }
      if r.special then throw .failed
      return status
    runResolved run mode r assignments
  let body := if isExec then body else withDescriptors body
  let keepsFrame := r.words.isEmpty ||
    (match r.target with | .builtIn => r.special | _ => false)
  if keepsFrame then body else withFrame body

/-! ### Loops -/

/-- What was being left out at the end of a turn of a loop, if anything,
and what still is. -/
def skipLoop : Act (Option Skip) := do
  let s ← get
  match s.skip with
  | some (.loops n) =>
    if n ≤ 1 then set { s with skip := none }
    else set { s with skip := some (.loops (n - 1)) }
    return some (.loops n)
  | some (.turn n) =>
    if n ≤ 1 then
      set { s with skip := none }
      return some (.turn 1)
    else
      set { s with skip := some (.turn (n - 1)) }
      return some (.loops n)
  | skip => return skip

/-- Whether a loop goes on with its next turn. -/
def goesOn : Option Skip → Bool
  | none | some (.turn _) => true
  | _ => false

/-- How many turns of a loop take some time. -/
def turnsInTime : Nat := 1000

/-- Runs turns of a loop with a test. -/
def runLoop (run : Runner) (mode : Mode) (whileFails : Bool)
    (test body : Command) : Nat → Nat → Act Nat
  | 0, _ => throw (.gone (.signal 11))
  | fuel + 1, status => do
    if fuel % turnsInTime = 0 then
      passTime
      receive
    let i ← run { tested := true } test
    match ← skipLoop with
    | some (.call given) => return if given then i else status
    | some skip =>
      if goesOn (some skip) then
        runLoop run mode whileFails test body fuel status
      else return status
    | none =>
      if (i ≠ 0) != whileFails then return status
      let status ← run { tested := mode.tested } body
      if goesOn (← skipLoop) then
        runLoop run mode whileFails test body fuel status
      else return status

/-- Runs a loop over words. -/
def runFor (run : Runner) (mode : Mode) (name : String) (body : Command) :
    List String → Nat → Act Nat
  | [], status => return status
  | x :: rest, _ => do
    assign name x false
    let status ← run { tested := mode.tested } body
    if goesOn (← skipLoop) then runFor run mode name body rest status
    else return status

/-- Runs something within a loop. -/
def inLoop (a : Act Nat) : Act Nat :=
  guarding (fun before after => { after with loops := before.loops }) do
    modify fun s => { s with loops := s.loops + 1 }
    a

/-- How many turns a loop can have. -/
def turnBound : Nat := 10000000

/-! ### Choices -/

/-- Whether one of some patterns fits a text. -/
def fitsAny (run : Runner) (text : String) : List Word → Act Bool
  | [] => return false
  | w :: rest => do
    let p ← expandPattern (substitute run) w
    if p.fits text.toList then return true else fitsAny run text rest

/-- Runs the first case of which a pattern fits. -/
def runCases (run : Runner) (mode : Mode) (text : String) :
    List (List Word × Option Command) → Act Nat
  | [] => return 0
  | (patterns, body) :: rest => do
    if ← fitsAny run text patterns then
      match body with
      | some body => run mode body
      | none => return 0
    else runCases run mode text rest

/-! ### Processes -/

/-- Runs the stages of a pipeline, each with what the one before has
written, given how subshells are run; the end of the last, and its
process. -/
def runStages (start : Act Unit → Act Exit) (run : Runner) (mode : Mode) :
    List Command → Option Channel → Act (Exit × Nat)
  | [], _ => return (.status 0, 0)
  | c :: rest, input => do
    let process := (← get).world.nextProcess
    let k ← newStream []
    let e ← start do
      match input with
      | some channel => modify fun s => s.setChannel 0 (some channel)
      | none => pure ()
      unless rest.isEmpty do
        modify fun s => s.setChannel 1 (some (.output k))
      let _ ← run { mode with ending := true } c
    if rest.isEmpty then return (e, process)
    else
      let text := ((← get).stream k).reverse
      let j ← newStream text
      runStages start run mode rest (some (.input j))

/-- Remembers what runs beside the script. -/
def remain (process : Nat) (sleeps : Nat) (e : Exit) : Act Unit :=
  modify fun s =>
    let job : Job := ⟨process, e, sleeps < s.world.sleeps⟩
    { s with jobs := s.jobs ++ [job], lastJob := some process }

/-- Runs something beside the script: nothing is there to be read, and
the signals of a keyboard do not reach it. -/
def beside (a : Act Unit) : Act Unit := do
  modify fun s =>
    { s.setChannel 0 (some .nothing) with ignored := 2 :: 3 :: s.ignored }
  a

/-- Runs the body of a subshell, with its redirections. -/
def runInner (run : Runner) (mode : Mode) (body : Command)
    (redirections : List Redirection) : Act Unit := do
  let redirections ←
    redirections.mapM (expandRedirection (substitute run))
  if (← redirectAll redirections) ≠ 0 then fail
  let _ ← run { mode with ending := true } body

/-! ### Commands -/

/-- The status of a command and whether its failure counts, given how
its parts are run. -/
def runNode (run : Runner) (mode : Mode) : Command → Act (Nat × Bool)
  | .simple assignments words redirections => do
    return (← runSimple run mode assignments words redirections, true)
  | .pipeline stages background => do
    let sleeps := (← get).world.sleeps
    if background then
      let first := (← get).world.nextProcess
      let (e, process) ←
        runStages (detach run) run mode stages (some .nothing)
      remain (max first process) sleeps e
      return (0, true)
    else
      let (e, _) ← runStages (fork run) run mode stages none
      receive
      return (e.shellStatus, true)
  | .redirected body redirections => do
    let status ← withDescriptors do
      let redirections ←
        redirections.mapM (expandRedirection (substitute run))
      let status ← redirectAll redirections
      if status ≠ 0 then return status
      run { tested := mode.tested } body
    return (status, false)
  | .subshell body redirections => do
    if mode.ending && !(← get).hasTraps then
      modify fun s =>
        { s with traps := s.traps.filter (·.2 = ""), loops := 0 }
      runInner run mode body redirections
      throw .finished
    else
      let e ← fork run (runInner run mode body redirections)
      receive
      return (e.shellStatus, true)
  | .background body => do
    let s ← get
    let e ← detach run (beside (runInner run {} body []))
    remain s.world.nextProcess s.world.sleeps e
    return (0, true)
  | .sequence first second => do
    let status ← run { tested := mode.tested } first
    if (← get).skip.isSome then return (status, false)
    return (← run mode second, false)
  | .both first second => do
    let status ← run { tested := true } first
    if status ≠ 0 || (← get).skip.isSome then return (status, false)
    return (← run mode second, false)
  | .either first second => do
    let status ← run { tested := true } first
    if status = 0 || (← get).skip.isSome then return (status, false)
    return (← run mode second, false)
  | .negated body => do
    let status ← run { tested := true } body
    if (← get).skip.isSome then return (status, false)
    return (if status = 0 then 1 else 0, false)
  | .conditional test body otherwise => do
    let status ← run { tested := true } test
    if (← get).skip.isSome then return (status, false)
    if status = 0 then return (← run mode body, false)
    match otherwise with
    | some c => return (← run mode c, false)
    | none => return (0, false)
  | .loop whileFails test body => do
    return (← inLoop (runLoop run mode whileFails test body turnBound 0),
      false)
  | .each name words body => do
    let fields ← expandAll (substitute run) words
    return (← inLoop (runFor run mode name body fields 0), false)
  | .choice subject cases => do
    let text ← expandText (substitute run) subject
    return (← runCases run mode text cases, false)
  | .definition name body => do
    modify fun s =>
      { s with definitions := s.definitions.insert name body }
    return (0, false)

/-- Runs a command, given how its parts are run. -/
def runCommandWith (run : Runner) : Runner := fun mode c => do
  if (← get).has 'n' then
    if mode.ending then throw .finished
    return (← get).last
  lookAfterSignals run
  let (status, counts) ← runNode run mode c
  modify fun s => { s with last := status }
  lookAfterSignals run
  if (← get).has 'e' && counts && !mode.tested && status ≠ 0 then
    throw .finished
  if mode.ending then throw .finished
  return (← get).last

/-- Runs a command of some depth. -/
def tree : Nat → Runner
  | 0 => fun _ _ => throw (.gone (.signal 11))
  | depth + 1 => fun mode c => runCommandWith (tree depth) mode c

/-- How deep commands can be within one another. -/
def treeDepth : Nat := 20000

end RemoteOps.Shell
