/-
Components: parts of the agent that are started and stopped.

What a component does when it is started or stopped is a phase: it takes
some time and then ends, well, with a failure, or abnormally.
-/

namespace RemoteOps

/-- How a phase ends. -/
inductive Ending where
  | success
  /-- An error with a message. -/
  | failure (message : String)
  /-- An abnormal end, distinct from an error. -/
  | panic
deriving DecidableEq, Repr, Inhabited

/-- What happens when a component is started or stopped: it takes some
milliseconds and then ends. -/
structure Phase where
  delay : Nat := 0
  ending : Ending := .success
deriving DecidableEq, Repr, Inhabited

/-- A part of the agent that is started and stopped. -/
structure Component where
  /-- Tells components of one name apart. -/
  uid : Nat
  name : String
  startPhase : Phase := {}
  stopPhase : Phase := {}
deriving DecidableEq, Repr, Inhabited

end RemoteOps
