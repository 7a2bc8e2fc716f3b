/-
Options of commands within the shell, and of the shell itself.
-/
import RemoteOps.Command.Shell.State

namespace RemoteOps.Shell

/-! ### Options of a command -/

/-- Whether an option is known, and whether it takes an argument. -/
def optionKind? (known : List Char) (c : Char) : Option Bool :=
  match known with
  | [] => none
  | d :: rest =>
    if d = c && d ≠ ':' then some (rest.head? = some ':')
    else optionKind? rest c

/-- Splits a group of options, given the arguments behind it. -/
def splitGroup (known : List Char) : List Char → List String →
    Act (List (Char × String) × List String)
  | [], args => return ([], args)
  | c :: cs, args => do
    match optionKind? known c, cs, args with
    | none, _, _ => fail
    | some false, cs, args =>
      let (options, args) ← splitGroup known cs args
      return ((c, "") :: options, args)
    | some true, [], x :: args => return ([(c, x)], args)
    | some true, [], [] => fail
    | some true, cs, args => return ([(c, String.ofList cs)], args)

/-- Splits the options of a command from its arguments. -/
def splitOptions (known : String) : Nat → List String →
    Act (List (Char × String) × List String)
  | 0, args => return ([], args)
  | _, [] => return ([], [])
  | fuel + 1, x :: rest => do
    match x.toList with
    | ['-', '-'] => return ([], rest)
    | '-' :: c :: cs =>
      let (options, rest) ← splitGroup known.toList (c :: cs) rest
      let (others, rest) ← splitOptions known fuel rest
      return (options ++ others, rest)
    | _ => return ([], x :: rest)

/-- The arguments of a command that has options. -/
def optionsOf (known : String) (args : List String) :
    Act (List (Char × String) × List String) :=
  splitOptions known (args.length + 1) args

/-! ### Options of the shell -/

/-- The options of the shell: their letters, in the order in which they
are shown, and their names. -/
def shellOptions : List (Char × String) :=
  [('e', "errexit"), ('f', "noglob"), ('I', "ignoreeof"),
    ('i', "interactive"), ('m', "monitor"), ('n', "noexec"),
    ('s', "stdin"), ('x', "xtrace"), ('v', "verbose"), ('V', "vi"),
    ('E', "emacs"), ('C', "noclobber"), ('a', "allexport"),
    ('b', "notify"), ('u', "nounset"), ('p', "privileged")]

/-- Options of the shell that have no letter and no effect. -/
def silentOptions : List String := ["nolog", "debug"]

/-- Turns an option on or off; one kind of editing excludes the
other. -/
def setOption (c : Char) (on : Bool) : Act Unit := do
  if (shellOptions.lookup c).isNone then fail
  modify fun s => s.withOption c on
  if on && c = 'V' then modify fun s => s.withOption 'E' false
  if on && c = 'E' then modify fun s => s.withOption 'V' false

/-- Turns options on or off, of which the names of some follow. -/
def setOptions (on : Bool) : List Char → List String → Act (List String)
  | [], args => return args
  | 'o' :: cs, args => do
    match args with
    | [] => setOptions on cs []
    | name :: args =>
      match shellOptions.find? (·.2 = name) with
      | some (c, _) => setOption c on
      | none => unless silentOptions.contains name do fail
      setOptions on cs args
  | c :: cs, args => do
    setOption c on
    setOptions on cs args

/-- The names of the options of the shell and whether each is on, as
lines of a table or as commands that turn them on or off again. -/
def listOptions (s : Shell) (asCommands : Bool) : String :=
  let line (c : Option Char) (name : String) : String :=
    let on := match c with | some c => s.has c | none => false
    if asCommands then
      "set " ++ (if on then "-" else "+") ++ "o " ++ name ++ "\n"
    else
      name ++ String.ofList (List.replicate (16 - name.length) ' ')
        ++ (if on then "on" else "off") ++ "\n"
  let lines := shellOptions.map (fun (c, name) => line (some c) name)
    ++ silentOptions.map (line none)
  (if asCommands then "" else "Current option settings\n")
    ++ String.intercalate "" lines

end RemoteOps.Shell
