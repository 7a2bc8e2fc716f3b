/-
Settling operations that an earlier run left executing.

A restart that is executing has succeeded, since the agent is up again.
A software update has succeeded exactly if the one piece of software
that is installed is the one it asks for first.

* `Pass.settle?_executing`: an executing operation can be settled, and
  only its status and reason change.
-/
import RemoteOps.Operation.Typed

namespace RemoteOps

/-- The passes over the executing operations, in their order. -/
inductive Pass where
  | restarts
  | software
deriving DecidableEq, Repr

namespace Pass

/-- The kind of the operations of a pass. -/
def kind : Pass → String
  | restarts => Kind.restart
  | software => Kind.softwareList

/-- Why a software update has failed, if it has, given the software that
is installed. -/
def softwareFault? (installed : List InstalledSoftware) (o : Operation) :
    Option String :=
  match TypedOperation.ofOperation o Kind.softwareList with
  | .ok (.softwareUpdate _ wanted) =>
    match installed, wanted.head? with
    | [current], some requested =>
      if current.isWanted requested then none
      else some ("installed " ++ current.name ++ " " ++ current.version
        ++ " does not match requested " ++ requested.name ++ " "
        ++ requested.version)
    | [_], none => some "operation requests no software"
    | entries, _ =>
      some ("expected exactly one installed software entry, found "
        ++ toString entries.length)
  | .ok other => some ("expected a software list, found " ++ other.kind)
  | .error e => some ("malformed software list: " ++ e.message)

/-- Why an operation of a pass has failed, if it has. -/
def fault? (installed : List InstalledSoftware) (o : Operation) :
    Pass → Option String
  | restarts => none
  | software => softwareFault? installed o

/-- The status of an operation that has failed for a reason or
succeeded for none. -/
def statusOf (fault : Option String) : Status :=
  if fault.isSome then .failed else .successful

/-- Settles an operation of a pass. -/
def settle? (pass : Pass) (installed : List InstalledSoftware)
    (o : Operation) : Except TransitionError Operation :=
  let fault := pass.fault? installed o
  match o.transitionTo (statusOf fault) with
  | (.ok (), o) => .ok { o with failureReason := fault }
  | (.error e, _) => .error e

theorem settle?_executing {pass : Pass}
    {installed : List InstalledSoftware} {o : Operation}
    (h : o.status = .executing) :
    pass.settle? installed o = .ok { o with
      status := statusOf (pass.fault? installed o)
      failureReason := pass.fault? installed o } := by
  have hb : Status.canBecome .executing
      (statusOf (pass.fault? installed o)) = true := by
    unfold statusOf
    split <;> rfl
  simp [settle?, Operation.transitionTo, h, hb]

end Pass

end RemoteOps
