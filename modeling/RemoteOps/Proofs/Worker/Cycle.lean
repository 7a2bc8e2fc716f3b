/-
What the parts of a worker's cycle come to for an operation that is
pending, and for one that is being executed.

* `Worker.dispatch_pending_none`, `Worker.dispatch_pending_some`: a
  pending operation is rejected if it cannot be converted, and is claimed
  for the owner of its kind otherwise;
* `Worker.conclude_executing`: whatever a call comes to is reported;
* `Worker.nextCycle_isFree`: between two cycles a loop holds no operation.
-/
import RemoteOps.Proofs.Conversion
import RemoteOps.Proofs.HandlerTable
import RemoteOps.Worker.Step

namespace RemoteOps

namespace TypedOperation

/-- A typed operation, claimed. -/
def claimed (t : TypedOperation) : TypedOperation :=
  t.withHeader { t.header with status := .executing }

@[simp]
lemma id_claimed (t : TypedOperation) : t.claimed.id = t.id := by
  rw [claimed, id, header_withHeader]
  rfl

@[simp]
lemma kind_claimed (t : TypedOperation) : t.claimed.kind = t.kind :=
  kind_withHeader _ t

lemma transitionTo_executing {t : TypedOperation} (h : t.status = .pending) :
    t.transitionTo .executing = (.ok (), t.claimed) := by
  rw [transitionTo, h, if_pos (by rfl)]
  rfl

end TypedOperation

namespace Operation

lemma fail_pending {o : Operation} (h : o.status = .pending)
    (reason : String) : o.fail reason = (.ok (),
      { o with status := .failed, failureReason := some reason }) := by
  rw [fail_eq_ok_iff, h]
  exact ⟨rfl, rfl⟩

lemma transitionTo_executing {o : Operation} (h : o.status = .pending) :
    o.transitionTo .executing
      = (.ok (), { o with status := .executing }) := by
  rw [transitionTo, h, if_pos (by rfl)]

/-- An operation that is not pending has no way on. -/
lemma transitionTo_executing_of_ne {o : Operation}
    (h : o.status ≠ .pending) : o.transitionTo .executing
      = (.error ⟨o.id, o.status, .executing⟩, o) := by
  have hb : o.status.canBecome .executing = false := by
    cases hs : o.status with
    | pending => exact absurd hs h
    | executing | successful | failed => rfl
  exact transitionTo_eq_error_iff.2 ⟨hb, rfl, rfl⟩

lemma transitionTo_terminal {o : Operation} {next : Status}
    (h : o.status = .executing) (hn : next.isTerminal = true) :
    o.transitionTo next = (.ok (), { o with status := next }) := by
  have hb : Status.canBecome .executing next = true := by
    cases next <;> simp_all [Status.isTerminal, Status.canBecome]
  rw [transitionTo, h, if_pos hb]

end Operation

/-- What is reported as successful was returned as successful. -/
lemma eq_of_report_successful {r : Option Outcome}
    (h : (report r).status = .successful) :
    r = some (.returned .successful) := by
  unfold report at h
  split at h <;> first | rfl | cases h

/-! ### The parts of a cycle -/

/-- A loop in this phase holds no operation. -/
def LoopPhase.IsFree : LoopPhase → Prop
  | .spawned | .polling _ | .idle _ | .exited => True
  | .rejecting _ _ | .claiming _ _ _ _ | .executing _ _
  | .reporting _ _ => False

namespace Worker

variable {σ : Type} (p : Platform σ) (s : Site σ) (w : Worker)

lemma nextCycle_isFree : (nextCycle p s w).IsFree := by
  rw [nextCycle]
  split <;> trivial

variable {o : Operation}

lemma reject_pending (ho : o.status = .pending) (reason : String) :
    ∃ due, reject p s w o reason
      = (s.note (.counted (.operations .unsupported)),
        .rejecting
          { o with status := .failed, failureReason := some reason } due) := by
  rw [reject, Operation.fail_pending ho]
  exact ⟨_, rfl⟩

/-- A pending operation that cannot be converted is rejected. -/
lemma dispatch_pending_none (ho : o.status = .pending)
    (hc : Matching.convert? o w.table.supportedKinds = none) :
    ∃ reason due, dispatch p s w o
      = (s.note (.counted (.operations .unsupported)),
        .rejecting
          { o with status := .failed, failureReason := some reason } due) := by
  rw [dispatch, hc]
  exact ⟨_, reject_pending p s w ho _⟩

/-- A pending operation that can be converted is claimed for the owner of
its kind. -/
lemma dispatch_pending_some {t : TypedOperation} (ho : o.status = .pending)
    (hc : Matching.convert? o w.table.supportedKinds = some t) :
    ∃ h due, w.table.handlerFor? t.kind = some h
      ∧ dispatch p s w o
        = (s, .claiming { o with status := .executing } t.claimed h due) := by
  obtain ⟨h, hh⟩ :=
    HandlerTable.exists_handlerFor? (Matching.kind_mem_of_convert? hc)
  have ht : t.status = .pending := (Matching.status_of_convert? hc).trans ho
  refine ⟨h, s.due p .status, hh, ?_⟩
  simp only [dispatch, hc, hh, Operation.transitionTo_executing ho,
    TypedOperation.transitionTo_executing ht]

/-- Whatever a call comes to is counted and reported. -/
lemma conclude_executing (ho : o.status = .executing) (r : Option Outcome) :
    ∃ due, conclude p s w o r
      = (s.note (.counted (.operations (report r).verdict)),
        .reporting { o with
          status := (report r).status
          failureReason := (report r).reason } due) := by
  rw [conclude, Operation.transitionTo_terminal ho (report_isTerminal r)]
  exact ⟨_, rfl⟩

end Worker

end RemoteOps
