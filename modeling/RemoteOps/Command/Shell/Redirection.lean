/-
Redirections: descriptors of a command that lead somewhere else.
-/
import RemoteOps.Command.Shell.Expansion

namespace RemoteOps.Shell

open Script (OpenMode Redirection)

/-- The descriptor that a path stands for. -/
def descriptorOf? (path : String) : Option Nat :=
  match path with
  | "/dev/stdin" => some 0
  | "/dev/stdout" => some 1
  | "/dev/stderr" => some 2
  | path =>
    let start := "/dev/fd/"
    if path.startsWith start then
      Number.digits? (path.toList.drop start.length)
    else none

/-- Makes or empties a file, unless it is to be kept. -/
def writeFile (path : String) (keep : Bool) : Act (Option Channel) := do
  unless keep do
    modify fun s =>
      { s with
        world := { s.world with files := s.world.files.write path "" } }
  return some (.file path)

/-- Opens what is at a place. -/
def openPlace (mode : OpenMode) (noClobber : Bool) :
    Place → Act (Option Channel)
  | .nowhere => return none
  | .absent path =>
    match mode with
    | .read => return none
    | _ => writeFile path false
  | .found path node =>
    match mode, node with
    | .read, .directory => return some .directory
    | _, .directory => return none
    | _, .device =>
      if path = "/dev/tty" || path = "/dev/ptmx" then return none
      else if path = "/dev/full" && mode ≠ .read then return some .full
      else return some .nothing
    | .read, .text content | .readWrite, .text content => do
      return some (.input (← newStream content.toList))
    | .read, _ | .readWrite, _ => return some .nothing
    | .append, _ => writeFile path true
    | .write, _ => if noClobber then return none else writeFile path false
    | .overwrite, _ => writeFile path false

/-- Opens a file, if that is possible. -/
def openFile (mode : OpenMode) (path : String) : Act (Option Channel) := do
  let s ← get
  match descriptorOf? path with
  | some fd => return s.channel? fd
  | none =>
    openPlace mode (s.has 'C') (s.world.files.locate s.working true path)

/-- A redirection whose words have been expanded. -/
inductive Redirected where
  | file (fd : Nat) (mode : OpenMode) (path : String)
  | duplicate (fd : Nat) (source : Option Nat)
  | document (fd : Nat) (text : String)
deriving DecidableEq, Repr

/-- The descriptor that a text names; a hyphen names none.  Others have
more than one digit or are no numbers. -/
def sourceOf (text : String) : Act (Option Nat) :=
  match text.toList with
  | ['-'] => return none
  | [c] => if c.isDigit then return some (c.toNat - 48) else fail
  | _ => fail

/-- Expands the words of a redirection. -/
def expandRedirection (substitute : Substitute) :
    Redirection → Act Redirected
  | .file fd mode path => return .file fd mode (← expandText substitute path)
  | .duplicate fd source => do
    let fields ← expandFields substitute source
    return .duplicate fd (← sourceOf (fields.headD ""))
  | .document fd text => do
    return .document fd (← expandText substitute text)

/-- Redirects a descriptor; whether that was possible. -/
def redirect : Redirected → Act Bool
  | .file fd mode path => do
    match ← openFile mode path with
    | some c =>
      modify fun s => s.setChannel fd (some c)
      return true
    | none => return false
  | .duplicate fd none => do
    modify fun s => s.setChannel fd none
    return true
  | .duplicate fd (some source) => do
    match (← get).channel? source with
    | some c =>
      modify fun s => s.setChannel fd (some c)
      return true
    | none => return fd = source
  | .document fd text => do
    let k ← newStream text.toList
    modify fun s => s.setChannel fd (some (.input k))
    return true

/-- Redirects descriptors for as long as that is possible; the status of
having done so. -/
def redirectAll : List Redirected → Act Nat
  | [] => return 0
  | r :: rest => do
    if ← redirect r then redirectAll rest else return 2

/-- Runs a command whose redirections are undone afterwards. -/
def withDescriptors {α : Type} (a : Act α) : Act α :=
  guarding (fun before after =>
    { after with descriptors := before.descriptors }) a

end RemoteOps.Shell
