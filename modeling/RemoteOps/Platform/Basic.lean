/-
The platform, as the agent sees it: calls that take time and succeed or
fail.

A platform over a state `σ` says what each call answers in each state
and which state follows.  Nothing more is assumed of it: the agent has
to behave whatever it answers.  What the handlers do is part of the same
state, since it is as little in the agent's hands.
-/
import RemoteOps.Handler

namespace RemoteOps

/-- Why a call of the platform fails. -/
structure Failure where
  message : String
deriving DecidableEq, Repr, Inhabited

/-- One page of a query. -/
structure OperationPage where
  operations : List Operation
  /-- Whether another page follows. -/
  hasNext : Bool
deriving DecidableEq, Inhabited

/-- The calls of the platform. -/
inductive Call where
  /-- The next pending operation. -/
  | poll
  /-- Write the status of an operation. -/
  | status
  /-- A page of the operations of a kind in a status. -/
  | query
  /-- Write a whole operation. -/
  | update
  /-- Publish the kinds that the device can execute. -/
  | publish
  /-- The software that is installed. -/
  | installed
deriving DecidableEq, Repr

/-- What a platform answers. -/
structure Platform (σ : Type) where
  /-- How long a call takes, in milliseconds. -/
  delay : σ → Call → Nat
  poll : σ → Except Failure (Option Operation) × σ
  writeStatus : σ → String → Status → Option String →
    Except Failure Unit × σ
  /-- The page of a kind and a status with a page size and a number. -/
  query : σ → String → Status → Nat → Nat →
    Except Failure OperationPage × σ
  update : σ → Operation → Except Failure Unit × σ
  publish : σ → List String → Except Failure Unit × σ
  installed : σ → Except Failure (List InstalledSoftware) × σ
  /-- What a handler does when it is called. -/
  execute : σ → Handler → TypedOperation → Behavior × σ

end RemoteOps
