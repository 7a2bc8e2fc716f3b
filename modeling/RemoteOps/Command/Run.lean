/-
Commands: a program with its arguments, run to its end.

Everything happens in a world of its own that holds the usual files; the
standard input of a command is empty, and what it prints is not kept.
-/
import RemoteOps.Command.Shell.Evaluation
import RemoteOps.Text.Bytes

namespace RemoteOps.Command

/-- The variables that commands are given. -/
def environment : Dict Variable :=
  .ofList ([("HOME", "/root"), ("PATH", Shell.usualPath)].map
    fun (name, value) => (name, ⟨some value, true, false⟩))

/-- The process that a command starts in. -/
def start : Shell where
  world := { files := Files.usual }
  process := 2000
  parent := 1
  shellProcess := 2000
  name := ""
  arguments := []
  vars := environment
  ignored := Exit.reserved
  descriptors := [(0, .nothing), (1, .nothing), (2, .nothing)]
  working := "/root"

/-- Whether a text has a zero byte in it. -/
def hasZero (s : String) : Bool := s.toList.contains (Char.ofNat 0)

/-- Runs a program with its arguments; none if it cannot be run. -/
def run? (program : String) (args : List String) : Option Exit :=
  if (program :: args).any hasZero then none
  else
    let program := Bytes.ofText program
    let words := program :: args.map Bytes.ofText
    match Shell.findProgram? start none program with
    | none => none
    | some path =>
      match Shell.program? start path with
      | .error _ => none
      | .ok _ =>
        let run := Shell.tree Shell.treeDepth
        let become : Act Unit := do
          let _ ← Shell.becomeProgram run path words
        some (Shell.conclude run become start).1

end RemoteOps.Command
