/-
Handlers: components that execute operations, and what a call of one
comes to.

* `report_isTerminal`: whatever a call comes to, the status that is
  reported for it is terminal;
* `report_reason`: a reason is reported only with a failure.
-/
import RemoteOps.Component
import RemoteOps.Operation.Typed

namespace RemoteOps

/-- A component that executes operations. -/
structure Handler extends Component where
  /-- The kinds of operations that it executes. -/
  kinds : List String
deriving DecidableEq, Repr, Inhabited

/-- An error that a handler reports. -/
inductive HandlerError where
  | failed (message : String)
  /-- The handler does not execute operations of this kind. -/
  | unsupported (kind : String)
  /-- Something went wrong on the way. -/
  | internal (message : String)
deriving DecidableEq, Repr

/-- The text of an error. -/
def HandlerError.message : HandlerError → String
  | failed message => message
  | unsupported kind =>
    "handler cannot execute operations of kind " ++ kind
  | internal message => "internal error: " ++ message

/-- How a call of a handler ends by itself. -/
inductive Outcome where
  | returned (status : Status)
  | erred (e : HandlerError)
  /-- An abnormal end, distinct from an error. -/
  | panicked
deriving DecidableEq, Repr

/-- What a handler does in one call: it takes some milliseconds and then
ends. -/
structure Behavior where
  delay : Nat := 0
  outcome : Outcome := .returned .successful
deriving DecidableEq, Repr

/-- How the agent counts an operation that it is done with. -/
inductive Verdict where
  | successful
  | failed
  /-- No handler took it. -/
  | unsupported
  /-- The handler reported an error or a status that is not terminal. -/
  | handlerError
  | handlerPanic
deriving DecidableEq, Repr

/-- The name of a verdict. -/
def Verdict.name : Verdict → String
  | successful => "successful"
  | failed => "failed"
  | unsupported => "unsupported"
  | handlerError => "handler_error"
  | handlerPanic => "handler_panic"

/-- What is reported to the platform for a call, and how it is counted.
A call without an outcome was cut off. -/
structure Report where
  status : Status
  reason : Option String
  verdict : Verdict
deriving DecidableEq, Repr

/-- The report for what a call comes to. -/
def report : Option Outcome → Report
  | some (.returned .successful) => ⟨.successful, none, .successful⟩
  | some (.returned .failed) => ⟨.failed, none, .failed⟩
  | some (.returned status) =>
    ⟨.failed, some ("handler returned non-terminal status " ++ status.name),
      .handlerError⟩
  | some (.erred e) => ⟨.failed, some e.message, .handlerError⟩
  | some .panicked => ⟨.failed, some "handler panicked", .handlerPanic⟩
  | none => ⟨.failed, some "handler was cancelled", .handlerError⟩

theorem report_isTerminal (r : Option Outcome) :
    (report r).status.isTerminal = true := by
  unfold report
  split <;> rfl

theorem report_reason {r : Option Outcome}
    (h : (report r).status ≠ .failed) : (report r).reason = none := by
  unfold report at h ⊢
  split <;> simp_all

end RemoteOps
