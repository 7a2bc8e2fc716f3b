/-
Commands within the shell that work on variables, arguments and short
names.
-/
import RemoteOps.Command.Printing
import RemoteOps.Command.Shell.BuiltIn.Options
import RemoteOps.Command.Shell.Expansion

namespace RemoteOps.Shell

/-! ### Definitions -/

/-- The name and the value of a text with an equals sign. -/
def splitDefinition (x : String) : String × Option String :=
  let name := x.toList.takeWhile (· ≠ '=')
  match x.toList.drop name.length with
  | _ :: value => (String.ofList name, some (String.ofList value))
  | [] => (x, none)

/-- Changes a variable, or makes one without a value. -/
def changeVariable (name : String) (change : Variable → Variable) :
    Act Unit := do
  if !Script.isName name then fail
  modify fun s =>
    let old := (s.vars.find? name).getD ⟨none, false, false⟩
    { s with vars := s.vars.insert name (change old) }

/-- The variables of a kind, as commands that would make them. -/
def listVariables (s : Shell) (command : String)
    (wanted : Variable → Bool) : String :=
  String.intercalate ""
    (s.vars.entries.filterMap fun (name, v) =>
      if wanted v then
        let value :=
          match v.value with
          | some value => "=" ++ Printing.quote value
          | none => ""
        some (command ++ name ++ value ++ "\n")
      else none)

/-- Exports variables or protects them, and may give them values. -/
def markAll (change : Variable → Variable) : List String → Act Unit
  | [] => return
  | x :: rest => do
    let (name, value) := splitDefinition x
    if !Script.isName name then fail
    match value with
    | some value => assign name value false
    | none => pure ()
    changeVariable name change
    markAll change rest

/-- Exports variables, or lists those that are. -/
def runExport (args : List String) : Act Nat := do
  let (options, rest) ← optionsOf "p" args
  if options.isEmpty && !rest.isEmpty then
    markAll (fun v => { v with exported := true }) rest
    return 0
  else print (listVariables (← get) "export " (·.exported))

/-- Protects variables, or lists those that are protected. -/
def runReadonly (args : List String) : Act Nat := do
  let (options, rest) ← optionsOf "p" args
  if options.isEmpty && !rest.isEmpty then
    markAll (fun v => { v with readOnly := true }) rest
    return 0
  else print (listVariables (← get) "readonly " (·.readOnly))

/-- Takes a variable away. -/
def unsetVariable (name : String) : Act Unit := do
  if !Script.isName name then fail
  match (← get).vars.find? name with
  | some v => if v.readOnly then fail
  | none => pure ()
  modify fun s => { s with vars := s.vars.erase name }

/-- Takes variables or definitions away. -/
def runUnset (args : List String) : Act Nat := do
  let (options, names) ← optionsOf "vf" args
  if (options.getLast?.map (·.1)) = some 'f' then
    modify fun s =>
      { s with definitions := names.foldl (·.erase ·) s.definitions }
  else names.forM unsetVariable
  return 0

/-- Makes variables that are put back when the definition ends; a hyphen
stands for the options. -/
def makeLocal : List String → Act Unit
  | [] => return
  | x :: rest => do
    let (name, value) := splitDefinition x
    if x = "-" then rememberOptions
    else
      if !Script.isName name then fail
      remember name
      match value with
      | some value => assign name value false
      | none => pure ()
    makeLocal rest

/-- Makes variables that are put back when the definition ends; outside
a definition there is nothing to put them back. -/
def runLocal (args : List String) : Act Nat := do
  if (← get).frames.isEmpty then fail
  makeLocal args
  return 0

/-! ### Arguments -/

/-- Reads the options of `set`; the arguments that follow, if the
arguments of the script are to be replaced. -/
def readSet : Nat → List String → Act (Option (List String))
  | 0, _ => return none
  | _, [] => return none
  | fuel + 1, x :: rest => do
    match x.toList with
    | ['-'] =>
      modify fun s => (s.withOption 'x' false).withOption 'v' false
      return if rest.isEmpty then none else some rest
    | ['-', '-'] => return some rest
    | '-' :: cs => readGroup fuel true cs rest
    | '+' :: cs => readGroup fuel false cs rest
    | _ => return some (x :: rest)
where
  /-- Reads a group of options. -/
  readGroup (fuel : Nat) (on : Bool) (cs : List Char)
      (rest : List String) : Act (Option (List String)) := do
    if cs.contains 'o' && rest.isEmpty then
      let _ ← print (listOptions (← get) (!on))
    readSet fuel (← setOptions on cs rest)

/-- Sets options and arguments, or lists the variables. -/
def runSet (args : List String) : Act Nat := do
  if args.isEmpty then
    print (listVariables (← get) "" (·.value.isSome))
  else
    match ← readSet (args.length + 1) args with
    | some arguments => modify fun s => { s with arguments }
    | none => pure ()
    return 0

/-- Leaves out the first arguments. -/
def runShift (args : List String) : Act Nat := do
  let n ←
    match args with
    | [] => pure 1
    | x :: _ =>
      match Number.count? x with
      | some n => pure n
      | none => fail
  let s ← get
  if s.arguments.length < n then fail
  set { s with arguments := s.arguments.drop n }
  return 0

/-! ### Options of a script -/

/-- What `getopts` has found: a letter, the value of the option, how
many arguments are done with, and where in the next one it goes on. -/
structure OptionFound where
  letter : Char
  value : Option String
  index : Nat
  offset : Nat
  done : Bool

/-- Finds the next option among arguments, at a number of them and at a
place within the one before. -/
def findOption (known : String) (args : List String) (index offset : Nat) :
    OptionFound :=
  let quiet := known.toList.head? = some ':'
  let current : List Char :=
    if offset = 0 || index < 2 then []
    else ((args.getD (index - 2) "").toList.drop offset)
  let start : Option (List Char × Nat) :=
    if !current.isEmpty then some (current, index)
    else
      match (args[index - 1]?).map String.toList with
      | some ('-' :: c :: cs) => some (c :: cs, index + 1)
      | _ => none
  match start with
  | none => ⟨'?', none, index, 0, true⟩
  | some (['-'], index) =>
    if current.isEmpty then ⟨'?', none, index, 0, true⟩
    else search quiet ['-'] index
  | some (cs, index) => search quiet cs index
where
  /-- Looks an option up. -/
  search (quiet : Bool) (cs : List Char) (index : Nat) : OptionFound :=
    match cs with
    | [] => ⟨'?', none, index, 0, true⟩
    | c :: rest =>
      let word := args.getD (index - 2) ""
      let offset := if rest.isEmpty then 0 else word.length - rest.length
      match optionKind? known.toList c with
      | none =>
        ⟨'?', if quiet then some (String.singleton c) else none, index,
          offset, false⟩
      | some false => ⟨c, some "", index, offset, false⟩
      | some true =>
        if !rest.isEmpty then
          ⟨c, some (String.ofList rest), index, 0, false⟩
        else
          match args[index - 1]? with
          | some value => ⟨c, some value, index + 1, 0, false⟩
          | none =>
            ⟨if quiet then ':' else '?',
              if quiet then some (String.singleton c) else none, index, 0,
              false⟩

/-- Takes the next option of the script's arguments, or of given
ones. -/
def runGetopts (args : List String) : Act Nat := do
  match args with
  | known :: name :: given =>
    let s ← get
    let words := if given.isEmpty then s.arguments else given
    let index := ((s.value? "OPTIND").bind Number.count?).getD 1
    let index := max 1 index
    let index := if words.length + 1 < index then 1 else index
    let found := findOption known words index s.optionOffset
    match found.value with
    | some value => assign "OPTARG" value false
    | none => unless found.done do unsetVariable "OPTARG"
    assign "OPTIND" (toString found.index) false
    if !Script.isName name then fail
    assign name (String.singleton found.letter) false
    modify fun s => { s with optionOffset := found.offset }
    return if found.done then 1 else 0
  | _ => fail

/-! ### Reading -/

/-- Reads a line: its characters and whether each is quoted, and whether
the line was ended. -/
def readLine (raw : Bool) : Nat → List (Char × Bool) →
    Act (List (Char × Bool) × Bool)
  | 0, line => return (line.reverse, false)
  | fuel + 1, line => do
    match ← readByte with
    | none => return (line.reverse, false)
    | some '\n' => return (line.reverse, true)
    | some c =>
      if c = '\\' && !raw then
        match ← readByte with
        | none => return (line.reverse, false)
        | some '\n' => readLine raw fuel line
        | some d => readLine raw fuel ((d, true) :: line)
      else if c.toNat = 0 then readLine raw fuel line
      else readLine raw fuel ((c, false) :: line)

/-- Whether a character is a separator. -/
def separates (separators : String) (c : Char × Bool) : Bool :=
  !c.2 && separators.toList.contains c.1

/-- Whether a character is a separator that is a blank. -/
def isBlankSeparator (separators : String) (c : Char × Bool) : Bool :=
  separates separators c && Fields.isBlank c.1

/-- The text of characters. -/
def plainText (cs : List (Char × Bool)) : String :=
  String.ofList (cs.map (·.1))

/-- What follows the separator that ends a field: blanks count as one,
together with one other separator. -/
def afterSeparator (separators : String) (cs : List (Char × Bool)) :
    List (Char × Bool) :=
  let blank := isBlankSeparator separators
  match cs with
  | [] => []
  | c :: rest =>
    let other := !blank c
    let rest := rest.dropWhile blank
    if other then rest
    else
      match rest with
      | d :: after =>
        if separates separators d then after.dropWhile blank else rest
      | [] => []

/-- The last field of a line: all that is left, without blanks behind
it, and without a separator behind it if that is the only one. -/
def lastField (separators : String) (cs : List (Char × Bool)) : String :=
  let blank := isBlankSeparator separators
  let trimmed := (cs.reverse.dropWhile blank).reverse
  let field := trimmed.takeWhile fun c => !separates separators c
  if afterSeparator separators (trimmed.drop field.length) = [] then
    plainText field
  else plainText trimmed

/-- The fields that a line gives to a number of names. -/
def fieldsOf (separators : String) : Nat → List (Char × Bool) →
    List String
  | 0, _ => []
  | 1, cs =>
    [lastField separators (cs.dropWhile (isBlankSeparator separators))]
  | n + 2, cs =>
    let cs := cs.dropWhile (isBlankSeparator separators)
    let field := cs.takeWhile fun c => !separates separators c
    plainText field ::
      fieldsOf separators (n + 1)
        (afterSeparator separators (cs.drop field.length))

/-- Gives values to names. -/
def assignAll : List (String × String) → Act Unit
  | [] => return
  | (name, value) :: rest => do
    if !Script.isName name then fail
    assign name value false
    assignAll rest

/-- Reads a line into variables. -/
def runRead (args : List String) : Act Nat := do
  let (options, names) ← optionsOf "p:r" args
  if names.isEmpty then fail
  let s ← get
  let bound :=
    match s.channel? 0 with
    | some (.input k) => (s.stream k).length + 1
    | _ => 1
  let (line, ended) ← readLine (options.any (·.1 = 'r')) bound []
  let fields := fieldsOf s.separators names.length line
  assignAll (names.zip fields)
  return if ended then 0 else 1

/-! ### Short names -/

/-- A short name and the text that it is to stand for; the first
character always belongs to the name. -/
def splitAlias (x : String) : String × Option String :=
  match x.toList with
  | [] => ("", none)
  | c :: cs =>
    let (name, text) := splitDefinition (String.ofList cs)
    (String.singleton c ++ name, text)

/-- Lists short names, or makes some. -/
def runAlias (args : List String) : Act Nat := do
  let shown (name text : String) : String :=
    name ++ "=" ++ Printing.quote text ++ "\n"
  if args.isEmpty then
    print (String.intercalate ""
      ((← get).aliases.entries.map fun (name, text) => shown name text))
  else
    let mut status := 0
    for x in args do
      let s ← get
      match splitAlias x with
      | (name, some text) =>
        set { s with aliases := s.aliases.insert name text }
      | (name, none) =>
        match s.aliases.find? name with
        | some text =>
          let _ ← print (shown name text)
        | none => status := 1
    return status

/-- Takes short names away. -/
def runUnalias (args : List String) : Act Nat := do
  let (options, names) ← optionsOf "a" args
  if !options.isEmpty then
    modify fun s => { s with aliases := .empty }
    return 0
  else
    let mut status := 0
    for name in names do
      let s ← get
      if (s.aliases.find? name).isNone then status := 1
      set { s with aliases := s.aliases.erase name }
    return status

end RemoteOps.Shell
