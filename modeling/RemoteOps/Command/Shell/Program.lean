/-
Programs: what the files that can be run do.

A program takes the place of a process of a shell and has what that
process passes on: exported variables, descriptors, the directory and
the signals that are ignored.  The shell itself is one of the programs.
-/
import RemoteOps.Command.Condition.Counted
import RemoteOps.Command.Shell.BuiltIn.Control
import RemoteOps.Command.Shell.BuiltIn.Signals
import RemoteOps.Command.Shell.Process

namespace RemoteOps.Shell

/-! ### The shell as a program -/

/-- The variables of a shell that starts. -/
def startVariables (s : Shell) : Dict Variable :=
  let given := s.environment.filter fun (name, _) => Script.isName name
  let imported : Dict Variable := given.foldl
    (fun d (name, value) => d.insert name ⟨some value, true, false⟩) .empty
  let own := [("IFS", Fields.usual), ("OPTIND", "1"),
    ("PPID", toString s.parent), ("PS1", "# "), ("PS2", "> "),
    ("PS4", "+ ")]
  let all := own.foldl
    (fun d (name, value) => d.insert name ⟨some value, false, false⟩)
    imported
  let exported :=
    match imported.find? "PWD" with
    | some v => v.exported
    | none => false
  all.insert "PWD" ⟨some s.working, exported, false⟩

/-- A shell that starts in the place of a process. -/
def started (s : Shell) (name : String) : Shell :=
  { world := s.world
    process := s.process
    parent := s.parent
    shellProcess := s.process
    name
    arguments := []
    vars := startVariables s
    ignored := s.ignored ++ (s.traps.filter (·.2 = "")).map (·.1)
    descriptors := s.descriptors
    working := s.working
    mask := s.mask }

/-- Reads the options that a shell is started with: whether a text is
given to it, and the other arguments. -/
def readInvocation : Nat → Bool → List String →
    Act (Bool × List String)
  | 0, hasText, args => return (hasText, args)
  | _, hasText, [] => return (hasText, [])
  | fuel + 1, hasText, x :: rest => do
    match x.toList with
    | ['-'] | ['-', '-'] => return (hasText, rest)
    | '-' :: cs => group fuel true hasText cs rest
    | '+' :: cs => group fuel false hasText cs rest
    | _ => return (hasText, x :: rest)
where
  /-- Reads a group of options. -/
  group (fuel : Nat) (on hasText : Bool) (cs : List Char)
      (rest : List String) : Act (Bool × List String) := do
    let own := cs.filter fun c => c ≠ 'c' && c ≠ 'l'
    let rest ← setOptions on own rest
    readInvocation fuel (hasText || cs.contains 'c') rest

/-- The text of a file of commands; the one of a program breaks the
grammar. -/
def scriptText? (s : Shell) (path : String) : Option String :=
  match s.world.files.node? s.working path with
  | some (.text content) => some content
  | some .program => some ")"
  | some _ => some ""
  | none => none

/-- Runs the shell with its arguments, to its end. -/
def runShell (run : Runner) (args : List String) : Act Unit := do
  let (hasText, rest) ← readInvocation (args.length + 1) false args
  if rest.isEmpty then
    if hasText then fail
    modify fun s => s.withOption 's' true
  match hasText, (← get).has 's', rest with
  | true, fromInput, text :: rest =>
    modify fun s =>
      { s with name := rest.headD s.name, arguments := rest.drop 1 }
    let _ ← runText run {} text
    if fromInput then
      let _ ← runInput run
  | _, false, path :: rest =>
    match scriptText? (← get) path with
    | none => fail
    | some text =>
      modify fun s => { s with name := path, arguments := rest }
      let _ ← runFile run text
  | _, _, rest =>
    modify fun s => { s with arguments := rest }
    let _ ← runInput run

/-! ### Small programs -/

/-- Prints arguments as the program does: escapes only if asked for. -/
def echoProgram : Bool → Bool → List String → String
  | newline, escapes, args =>
    let text := String.intercalate " " args
    let (cs, stops) :=
      if escapes then Printing.escaped (text.length + 1) text.toList
      else (text.toList, false)
    String.ofList (if newline && !stops then cs ++ ['\n'] else cs)

/-- Reads the options of the program that prints its arguments. -/
def echoOptions : Bool → Bool → List String → Bool × Bool × List String
  | newline, escapes, [] => (newline, escapes, [])
  | newline, escapes, x :: rest =>
    match x.toList with
    | '-' :: c :: cs =>
      if (c :: cs).all fun d => d = 'n' || d = 'e' || d = 'E' then
        echoOptions (newline && !(c :: cs).contains 'n')
          ((c :: cs).foldl (fun escapes d =>
            if d = 'e' then true else if d = 'E' then false else escapes)
            escapes) rest
      else (newline, escapes, x :: rest)
    | _ => (newline, escapes, x :: rest)

/-- Prints files one after the other. -/
def runCat (status : Nat) : List String → Act Nat
  | [] => return status
  | x :: rest => do
    let s ← get
    let text? : Option String ←
      if x = "-" then do pure ((← readAll).map String.ofList)
      else
        match s.world.files.node? s.working x with
        | some (.text content) => pure (some content)
        | some .device => pure (some "")
        | _ => pure none
    match text? with
    | some text =>
      let written ← print text
      runCat (status ||| written) rest
    | none => runCat 1 rest

/-- Whether a text is a span of time. -/
def isSpan (x : String) : Bool :=
  let cs := x.toList
  let cs :=
    match cs.getLast? with
    | some c => if ['s', 'm', 'h', 'd'].contains c then cs.dropLast else cs
    | none => cs
  let whole := cs.takeWhile Char.isDigit
  match cs.drop whole.length with
  | [] => !whole.isEmpty
  | '.' :: part =>
    part.all Char.isDigit && !(whole.isEmpty && part.isEmpty)
  | _ => false

/-- Waits, which takes no time here but is remembered. -/
def runSleep (args : List String) : Act Nat := do
  if args.isEmpty || !args.all isSpan then return 1
  modify fun s =>
    { s with world := { s.world with sleeps := s.world.sleeps + 1 } }
  return 0

/-- Numbers from one to another. -/
def runSeq (args : List String) : Act Nat := do
  let range (first step last : Int) : Act Nat := do
    if step = 0 then return 1
    let count :=
      if 0 < step then (last - first) / step + 1
      else (first - last) / (-step) + 1
    let line (k : Nat) : String :=
      toString (first + step * Int.ofNat k) ++ "\n"
    print (String.intercalate "" ((List.range count.toNat).map line))
  match args.mapM Number.integer? with
  | some [last] => range 1 1 last
  | some [first, last] => range first 1 last
  | some [first, step, last] => range first step last
  | _ => return 1

/-! ### Running programs -/

/-- What has been found out about the options of `env`: the rest of its
arguments, or nothing if they are malformed. -/
def readEnvironment : List String → Act (Option (List String))
  | [] => return some []
  | "-i" :: rest | "-" :: rest | "--ignore-environment" :: rest => do
    modify fun s => { s with vars := .empty }
    readEnvironment rest
  | "-u" :: name :: rest => do
    modify fun s => { s with vars := s.vars.erase name }
    readEnvironment rest
  | "--" :: rest => return some rest
  | x :: rest =>
    if x.startsWith "-" then return none else return some (x :: rest)

/-- Gives variables the values that arguments name; the rest of the
arguments. -/
def giveVariables : List String → Act (List String)
  | [] => return []
  | x :: rest => do
    match x.toList.contains '=' with
    | true =>
      let name := String.ofList (x.toList.takeWhile (· ≠ '='))
      let value := String.ofList (x.toList.drop (name.length + 1))
      modify fun s =>
        { s with
          vars := s.vars.insert name ⟨some value, true, false⟩ }
      giveVariables rest
    | false => return x :: rest

/-- What is at the end of the path of a command: its program, or the
status of not being able to run it. -/
def program? (s : Shell) (path : String) : Except Nat String :=
  match s.world.files.locate s.working true path with
  | .found place .program => .ok (Files.baseName place)
  | .found _ _ => .error 126
  | _ => .error 127

/-- Runs the program at the end of a path in the place of a process; the
status with which it exits, or with which it cannot be run. -/
def runProgram (run : Runner) : Nat → String → String → List String →
    Act Nat
  | 0, _, _, _ => return 126
  | fuel + 1, path, name, args => do
    let s ← get
    match program? s path with
    | .error status => return status
    | .ok "true" => return 0
    | .ok "false" => return 1
    | .ok "test" => return Condition.Counted.status (setting s) args
    | .ok "[" => return Condition.Counted.bracketStatus (setting s) args
    | .ok "dash" =>
      let (e, world) := conclude run (runShell run args) (started s name)
      set { s with world }
      throw (.gone e)
    | .ok "echo" =>
      let (newline, escapes, rest) := echoOptions true false args
      print (echoProgram newline escapes rest)
    | .ok "printf" =>
      match args with
      | [] => return 1
      | format :: args =>
        match Printing.printf? format args with
        | none => return 1
        | some (text, wrong) =>
          let status ← print text
          return if wrong then 1 else status
    | .ok "cat" => runCat 0 (if args.isEmpty then ["-"] else args)
    | .ok "sleep" => runSleep args
    | .ok "seq" => runSeq args
    | .ok "pwd" => print (s.working ++ "\n")
    | .ok "basename" =>
      match args with
      | [x] => print (Files.baseName x ++ "\n")
      | _ => return 1
    | .ok "whoami" => print "root\n"
    | .ok "env" =>
      match ← readEnvironment args with
      | none => return 125
      | some rest =>
        match ← giveVariables rest with
        | [] =>
          print (String.intercalate ""
            ((← get).environment.map fun (name, value) =>
              name ++ "=" ++ value ++ "\n"))
        | x :: rest =>
          let s ← get
          match findProgram? s none x with
          | some path => runProgram run fuel path x rest
          | none => return 127
    | .ok _ => return 0

/-- How deep programs can start one another in one process. -/
def programDepth : Nat := 100

/-- Runs a program in the place of a process, to its end. -/
def becomeProgram (run : Runner) (path : String) (words : List String) :
    Act Nat := do
  let s ← get
  match program? s path with
  | .error status =>
    set { s with last := status }
    throw .finished
  | .ok _ =>
    let status ←
      runProgram run programDepth path (words.headD "") (words.drop 1)
    throw (.gone (.status (status % 256)))

end RemoteOps.Shell
