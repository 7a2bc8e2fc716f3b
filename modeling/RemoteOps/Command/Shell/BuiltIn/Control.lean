/-
Commands within the shell that decide how a script goes on, and some
that tell about the shell or print.
-/
import RemoteOps.Command.Condition.Sequential
import RemoteOps.Command.Printing
import RemoteOps.Command.Script.Token
import RemoteOps.Command.Shell.BuiltIn.Options
import RemoteOps.Command.Shell.Redirection

namespace RemoteOps.Shell

/-! ### Leaving -/

/-- A count that is given as the first argument, or a usual one. -/
def countOf (args : List String) (usual : Nat) : Act Nat :=
  match args with
  | [] => return usual
  | x :: _ =>
    match Number.count? x with
    | some n => return n
    | none => fail

/-- Leaves loops, or the current turns of loops. -/
def leaveLoops (skip : Nat → Skip) (args : List String) : Act Nat := do
  let n ← countOf args 1
  if n = 0 then fail
  let s ← get
  let n := min n s.loops
  if 0 < n then set { s with skip := some (skip n) }
  return 0

/-- Leaves loops. -/
def runBreak : List String → Act Nat := leaveLoops .loops

/-- Leaves the current turns of loops. -/
def runContinue : List String → Act Nat := leaveLoops .turn

/-- Leaves a definition or a file. -/
def runReturn (args : List String) : Act Nat := do
  let n ← countOf args (← get).last
  modify fun s => { s with skip := some (.call (!args.isEmpty)) }
  return n

/-- Leaves the shell. -/
def runExit (args : List String) : Act Nat := do
  unless args.isEmpty do
    let n ← countOf args 0
    modify fun s => { s with saved := some n }
  throw .exit

/-! ### Places -/

/-- Whether a path starts with two slashes and no more, which are
kept. -/
def isDoubled (path : String) : Bool :=
  path.startsWith "//" && !path.startsWith "///"

/-- The path of a place, without steps that stay or go back. -/
def tidyPath (working path : String) : String :=
  let start := if path.startsWith "/" then "" else working
  let all := Files.steps start ++ Files.steps path
  let tidy := Files.pathOf (all.foldl (fun back step =>
    if Files.isStill step then back
    else if step = ".." then back.tail
    else step :: back) [])
  if isDoubled (start ++ path) then "/" ++ tidy else tidy

/-- Where a directory is looked for, and whether it is shown if it is
there; last comes the path itself. -/
def cdPlaces (s : Shell) (target : String) : List (String × Bool) :=
  let first := (Files.steps target).headD ""
  if target.startsWith "/" || first = "." || first = ".." then
    [(target, false)]
  else
    let target := if target = "" then "." else target
    let place (x : List Char) : String × Bool :=
      if x.isEmpty then (target, false)
      else (String.ofList x ++ "/" ++ target, true)
    let places :=
      match s.value? "CDPATH" with
      | some paths => (paths.toList.splitOn ':').map place
      | none => []
    places.filter (fun (path, _) =>
      s.world.files.node? s.working path = some .directory)
      ++ [(target, false)]

/-- Goes to another directory: the path that is tidied up as it is
written, or the one that it physically has. -/
def runCd (args : List String) : Act Nat := do
  let (options, rest) ← optionsOf "LP" args
  let s ← get
  let (target, shown) :=
    match rest with
    | [] => ((s.value? "HOME").getD "", false)
    | "-" :: _ => ((s.value? "OLDPWD").getD "", true)
    | x :: _ => (x, false)
  let (target, found) := (cdPlaces s target).headD (target, false)
  let physical := (options.getLast?.map (·.1)) = some 'P'
  let path := if physical then target else tidyPath s.working target
  match s.world.files.locate s.working true path with
  | .found place .directory =>
    let path := if physical then place else path
    let old := s.working
    modify fun s => { s with working := path }
    assign "OLDPWD" old true
    assign "PWD" path true
    if shown || found then print (path ++ "\n") else return 0
  | _ => fail

/-- Tells the current directory. -/
def runPwd (args : List String) : Act Nat := do
  let (options, _) ← optionsOf "LP" args
  let s ← get
  let place :=
    match options.getLast?, s.world.files.locate "/" true s.working with
    | some ('P', _), .found place _ => place
    | _, _ => s.working
  print (place ++ "\n")

/-! ### Limits -/

/-- The rights that a mask leaves to one kind of user. -/
def rightsOf (mask kind : Nat) : String :=
  let bits := mask >>> (3 * kind) % 8
  let right (bit : Nat) (c : Char) : List Char :=
    if bits / bit % 2 = 0 then [c] else []
  String.ofList (right 4 'r' ++ right 2 'w' ++ right 1 'x')

/-- The bits of rights that are named by letters. -/
def rightBits (mask : Nat) : List Char → Option Nat
  | [] => some 0
  | c :: cs => do
    let rest ← rightBits mask cs
    let bits ←
      match c with
      | 'r' => some 4
      | 'w' => some 2
      | 'x' | 'X' => some 1
      | 's' | 't' => some 0
      | 'u' => some (7 - mask / 64 % 8)
      | 'g' => some (7 - mask / 8 % 8)
      | 'o' => some (7 - mask % 8)
      | _ => none
    return bits ||| rest

/-- Changes a mask by one clause of who may do what. -/
def changeMask (mask : Nat) (clause : List Char) : Option Nat := do
  let isWho (c : Char) := ['u', 'g', 'o', 'a'].contains c
  let who := clause.takeWhile isWho
  let kinds (c : Char) : List Nat :=
    match c with
    | 'u' => [2]
    | 'g' => [1]
    | 'o' => [0]
    | _ => [0, 1, 2]
  let kinds := if who.isEmpty then [0, 1, 2] else who.flatMap kinds
  match clause.drop who.length with
  | op :: rights =>
    let bits ← rightBits mask rights
    guard (['+', '-', '='].contains op)
    return kinds.foldl (fun mask kind =>
      let old := mask >>> (3 * kind) % 8
      let allowed := 7 - old
      let new :=
        if op = '+' then allowed ||| bits
        else if op = '-' then allowed - (allowed &&& bits)
        else bits
      mask - old <<< (3 * kind) + (7 - new) <<< (3 * kind)) mask
  | [] => none

/-- Tells or sets the rights that new files do not have. -/
def runUmask (args : List String) : Act Nat := do
  let (options, rest) ← optionsOf "S" args
  let s ← get
  match rest with
  | [] =>
    if options.isEmpty then
      let digits := Number.render 8 false s.mask
      print (String.ofList (Printing.pad false '0' 4 digits.toList) ++ "\n")
    else
      print ("u=" ++ rightsOf s.mask 2 ++ ",g=" ++ rightsOf s.mask 1
        ++ ",o=" ++ rightsOf s.mask 0 ++ "\n")
  | x :: _ =>
    let cs := x.toList
    if (cs.head?.map Char.isDigit) = some true then
      if cs.all Printing.isOctal then
        set { s with mask := Number.valueOf 8 cs % 512 }
        return 0
      else fail
    else
      match (cs.splitOn ',').foldlM changeMask s.mask with
      | some mask =>
        set { s with mask }
        return 0
      | none => fail

/-- Tells or sets limits.  None that is set has an effect, and most are
not set. -/
def runUlimit (args : List String) : Act Nat := do
  let (options, rest) ← optionsOf "HSatfdsmcpnlvwr" args
  match rest with
  | [] =>
    let kind := ((options.filter fun o =>
      o.1 ≠ 'H' && o.1 ≠ 'S').getLast?.map (·.1)).getD 'f'
    let value :=
      match kind with
      | 'c' | 'r' => "0"
      | 's' => "8192"
      | _ => "unlimited"
    print (value ++ "\n")
  | [x] =>
    if x = "unlimited" || (Number.digits? x.toList).isSome then return 0
    else fail
  | _ => fail

/-- Tells how much time has been used, which is none. -/
def runTimes (_args : List String) : Act Nat := do
  let line := "0m0.000000s 0m0.000000s\n"
  print (line ++ line)

/-! ### Printing -/

/-- Prints arguments. -/
def runEcho (args : List String) : Act Nat := print (Printing.echo args)

/-- Prints by a format. -/
def runPrintf (args : List String) : Act Nat := do
  let (_, args) ← optionsOf "" args
  match args with
  | [] => fail
  | format :: args =>
    match Printing.printf? format args with
    | none => fail
    | some (text, wrong) =>
      let status ← print text
      return if wrong then 1 else status

/-! ### Conditions -/

/-- The files that a condition of a script speaks about. -/
def setting (s : Shell) : Condition.Setting := ⟨s.world.files, s.working⟩

/-- Tests a condition. -/
def runTest (args : List String) : Act Nat :=
  return Condition.Sequential.status (setting (← get)) args

/-- Tests a condition between brackets. -/
def runBracket (args : List String) : Act Nat :=
  return Condition.Sequential.bracketStatus (setting (← get)) args

/-! ### What commands are -/

/-- The usual search path of commands. -/
def usualPath : String :=
  "/usr/local/sbin:/usr/local/bin:/usr/sbin:/usr/bin:/sbin:/bin"

/-- The path of the program that a name stands for. -/
def findProgram? (s : Shell) (searchPath : Option String)
    (name : String) : Option String :=
  s.world.files.search? s.working
    (searchPath.getD ((s.value? "PATH").getD "")) name

/-- What a name stands for as a command, in a few words or in a
sentence; none if there is no such command. -/
def describe? (isBuiltIn isSpecial : String → Bool) (s : Shell)
    (searchPath : Option String) (verbose : Bool) (name : String) :
    Option String :=
  let short (what : String) := if verbose then name ++ what else name
  if (Script.keywordOf? name).isSome then some (short " is a shell keyword")
  else
    match s.aliases.find? name with
    | some text =>
      some (if verbose then name ++ " is an alias for " ++ text
        else "alias " ++ name ++ "=" ++ Printing.quote text)
    | none =>
      if s.definitions.contains name then
        some (short " is a shell function")
      else if isSpecial name then
        some (short " is a special shell builtin")
      else if isBuiltIn name then some (short " is a shell builtin")
      else
        match findProgram? s searchPath name with
        | some path =>
          let isThere := (s.world.files.node? s.working path).isSome
          if !isThere then none
          else if verbose then some (name ++ " is " ++ path)
          else some path
        | none => none

/-- Describes a command. -/
def describe (isBuiltIn isSpecial : String → Bool)
    (searchPath : Option String) (verbose : Bool) (name : String) :
    Act Nat := do
  match describe? isBuiltIn isSpecial (← get) searchPath verbose name with
  | some text => print (text ++ "\n")
  | none =>
    if verbose then
      let _ ← print (name ++ ": not found\n")
    return 127

/-- Describes commands. -/
def runType (isBuiltIn isSpecial : String → Bool) :
    List String → Act Nat
  | [] => return 0
  | x :: rest => do
    let a ← describe isBuiltIn isSpecial none true x
    let b ← runType isBuiltIn isSpecial rest
    return a ||| b

/-- Describes the first argument of `command`, if that is asked for. -/
def runCommand (isBuiltIn isSpecial : String → Bool)
    (args : List String) : Act Nat := do
  let (options, rest) ← optionsOf "pvV" args
  let path := if options.any (·.1 = 'p') then some usualPath else none
  match options.filter (·.1 ≠ 'p'), rest with
  | [], _ | _, [] => return 0
  | asked, x :: _ =>
    let verbose := (asked.getLast?.map (·.1)) = some 'V'
    describe isBuiltIn isSpecial path verbose x

/-- Looks commands up. -/
def runHash (isBuiltIn : String → Bool) (args : List String) :
    Act Nat := do
  let (_, names) ← optionsOf "r" args
  let s ← get
  let isKnown (name : String) : Bool :=
    s.definitions.contains name || isBuiltIn name
      || (findProgram? s none name).isSome
  return if names.all isKnown then 0 else 1

end RemoteOps.Shell
