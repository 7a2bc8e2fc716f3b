/-
The command line of the simulator: it reads the arguments and the
environment, runs the simulator and writes what it leaves behind.
-/
import RemoteOps.Simulator.Basic

namespace RemoteOps.Simulator

/-- Looks up the variables of the options. -/
def readEnvironment : IO (Dict String) := do
  let mut d : Dict String := .empty
  for flag in Flag.all do
    if let some name := flag.envName? then
      if let some value ← IO.getEnv name then
        d := d.insert name value
  return d

/-- Writes what a run leaves behind. -/
def Output.write (o : Output) : IO UInt32 := do
  (← IO.getStdout).putStr o.out
  (← IO.getStderr).putStr o.err
  return o.code.toUInt32

end RemoteOps.Simulator

/-- Runs the simulator. -/
def main (args : List String) : IO UInt32 := do
  let env ← RemoteOps.Simulator.readEnvironment
  (RemoteOps.Simulator.run env.find? args).write
