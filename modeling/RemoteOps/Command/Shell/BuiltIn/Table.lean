/-
The commands within the shell, by their names.

A special one ends the shell when it fails, and keeps the values that
are given to names in front of it.

* `Shell.builtIn?_special`: every special name is one of a command
  within the shell.
-/
import RemoteOps.Command.Shell.BuiltIn.Variables
import RemoteOps.Command.Shell.Program

namespace RemoteOps.Shell

/-! ### Names -/

/-- Whether a name is one of a special command. -/
def isSpecial (name : String) : Bool :=
  Script.Parts.reservedNames.contains name

/-- The names of the other commands within the shell. -/
def regularNames : List String :=
  ["[", "alias", "bg", "cd", "chdir", "command", "echo", "false", "fg",
    "getopts", "hash", "jobs", "kill", "printf", "pwd", "read", "test",
    "true", "type", "ulimit", "umask", "unalias", "wait"]

/-- Whether a name is one of a command within the shell. -/
def isBuiltIn (name : String) : Bool :=
  isSpecial name || regularNames.contains name

/-- Whether the arguments of a command can give values to names. -/
def isAssigning (name : String) : Bool :=
  ["alias", "export", "local", "readonly"].contains name

/-! ### Running texts, files and programs -/

/-- Runs the arguments as a script. -/
def runEval (run : Runner) (mode : Mode) (args : List String) : Act Nat :=
  if args.isEmpty then return 0
  else
    runText run { tested := mode.tested } (String.intercalate " " args)

/-- The text of a file of commands that is looked for. -/
def sourceText? (s : Shell) (name : String) : Option String :=
  if name.toList.contains '/' then scriptText? s name
  else
    let isText (path : String) : Bool :=
      match s.world.files.node? s.working path with
      | some (.text _) | some .program => true
      | _ => false
    let places := Files.searchPlaces ((s.value? "PATH").getD "") name
    (places.find? isText).bind (scriptText? s)

/-- Runs a file of commands in the shell itself. -/
def runSource (run : Runner) (args : List String) : Act Nat := do
  let (_, args) ← optionsOf "" args
  match args with
  | [] => return 0
  | name :: _ =>
    match sourceText? (← get) name with
    | some text => runFile run text
    | none => fail

/-- Puts a program in the place of the shell.  What is there under its
name but cannot be run is told from what is not there. -/
def runExec (run : Runner) (args : List String) : Act Nat := do
  match args with
  | [] => return 0
  | name :: _ =>
    let s ← get
    match findProgram? s none name with
    | some path => becomeProgram run path args
    | none =>
      let places := Files.searchPlaces ((s.value? "PATH").getD "") name
      let isThere (path : String) : Bool :=
        (s.world.files.node? s.working path).isSome
      set { s with last := if places.any isThere then 126 else 127 }
      throw .finished

/-! ### The table -/

/-- What the commands within the shell do, by their names. -/
def builtIns (run : Runner) (mode : Mode) (args : List String) :
    List (String × Act Nat) :=
  [(":", pure 0),
    ("true", pure 0),
    ("false", pure 1),
    (".", runSource run args),
    ("[", runBracket args),
    ("alias", runAlias args),
    ("bg", runForeground args),
    ("break", runBreak args),
    ("cd", runCd args),
    ("chdir", runCd args),
    ("command", runCommand isBuiltIn isSpecial args),
    ("continue", runContinue args),
    ("echo", runEcho args),
    ("eval", runEval run mode args),
    ("exec", runExec run args),
    ("exit", runExit args),
    ("export", runExport args),
    ("fg", runForeground args),
    ("getopts", runGetopts args),
    ("hash", runHash isBuiltIn args),
    ("jobs", runJobs args),
    ("kill", runKill args),
    ("local", runLocal args),
    ("printf", runPrintf args),
    ("pwd", runPwd args),
    ("read", runRead args),
    ("readonly", runReadonly args),
    ("return", runReturn args),
    ("set", runSet args),
    ("shift", runShift args),
    ("test", runTest args),
    ("times", runTimes args),
    ("trap", runTrap args),
    ("type", runType isBuiltIn isSpecial args),
    ("ulimit", runUlimit args),
    ("umask", runUmask args),
    ("unalias", runUnalias args),
    ("unset", runUnset args),
    ("wait", runWait args)]

/-- What a command within the shell does, by its name. -/
def builtIn? (run : Runner) (mode : Mode) (name : String)
    (args : List String) : Option (Act Nat) :=
  (builtIns run mode args).lookup name

theorem builtIn?_special (run : Runner) (mode : Mode)
    (args : List String) :
    ∀ name ∈ Script.Parts.reservedNames,
      (builtIn? run mode name args).isSome := by
  simp [Script.Parts.reservedNames, builtIn?, builtIns, List.lookup_cons]

end RemoteOps.Shell
