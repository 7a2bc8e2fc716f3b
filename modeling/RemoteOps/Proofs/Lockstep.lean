/-
An operation and its typed form take the same steps of the life cycle.

A value is moved by one step after the other; each step gives an answer
and the value after it, and one that the life cycle does not have is
refused and leaves the value as it was.  Whatever steps are asked for,
the typed form of an operation that was moved is the typed form of the
operation, moved, and turning back commutes with moving: at every point
one can be had from the other.

* `Status.InStep`: steps that two values take or refuse alike;
* `Status.InStep.rel_moved`, `Status.InStep.answers_eq`: from one step to
  any number of them;
* `Status.count_answers_add_le`: steps that are taken use up a rank;
* `TypedOperation.inStep_ofOperation`, `TypedOperation.inStep_toOperation`:
  making an operation typed and turning it back keep step;
* `TypedOperation.ofOperation_toOperation_moved`: a typed operation that
  was moved can be turned back and made typed again;
* `TypedOperation.lockstep`: how both sides go along.
-/
import RemoteOps.Proofs.TurningBack

namespace RemoteOps

/-! ### One step after the other -/

namespace Status

variable {α β : Type} {f : α → Status → Except TransitionError Unit × α}
  {g : β → Status → Except TransitionError Unit × β} {R : α → β → Prop}
  {a : α} {b : β}

/-- The error by which a step is refused; none if it is taken. -/
def refusal? : Except TransitionError Unit → Option TransitionError
  | .ok () => none
  | .error e => some e

/-- A value after some steps. -/
def moved (f : α → Status → Except TransitionError Unit × α) (a : α)
    (l : List Status) : α :=
  l.foldl (fun a next => (f a next).2) a

/-- What some steps are answered. -/
def answers (f : α → Status → Except TransitionError Unit × α) (a : α) :
    List Status → List (Option TransitionError)
  | [] => []
  | next :: l => refusal? (f a next).1 :: answers f (f a next).2 l

lemma moved_append (f : α → Status → Except TransitionError Unit × α)
    (a : α) (l : List Status) (next : Status) :
    moved f a (l ++ [next]) = (f (moved f a l) next).2 := by
  rw [moved, List.foldl_append]
  rfl

/-- A step that two values answer alike, and that keeps a relation. -/
structure InStep (f : α → Status → Except TransitionError Unit × α)
    (g : β → Status → Except TransitionError Unit × β) (R : α → β → Prop)
    (a : α) (b : β) (next : Status) : Prop where
  answer : (f a next).1 = (g b next).1
  rel : R (f a next).2 (g b next).2

namespace InStep

/-- Values that are related take and refuse all steps alike. -/
lemma rel_moved (hstep : ∀ a b next, R a b → InStep f g R a b next)
    (hR : R a b) (l : List Status) : R (moved f a l) (moved g b l) := by
  induction l generalizing a b with
  | nil => exact hR
  | cons next l ih => exact ih (hstep a b next hR).rel

lemma answers_eq (hstep : ∀ a b next, R a b → InStep f g R a b next)
    (hR : R a b) (l : List Status) : answers f a l = answers g b l := by
  induction l generalizing a b with
  | nil => rfl
  | cons next l ih =>
    have h := hstep a b next hR
    rw [answers, answers, h.answer, ih h.rel]

end InStep

/-- Where every step that is taken raises a rank, and every other leaves the
value as it was, no more steps are taken than there is room. -/
lemma count_answers_add_le (rank : α → Nat) {top : Nat}
    (htop : ∀ a, rank a ≤ top)
    (hlt : ∀ a next, (f a next).1 = .ok () → rank a < rank (f a next).2)
    (hkeep : ∀ a next e, (f a next).1 = .error e → (f a next).2 = a)
    (a : α) (l : List Status) :
    (answers f a l).count none + rank a ≤ top := by
  induction l generalizing a with
  | nil =>
    have h := htop a
    rw [answers, List.count_nil]
    omega
  | cons next l ih =>
    have hrest := ih (f a next).2
    rw [answers, List.count_cons]
    cases hf : (f a next).1 with
    | ok u =>
      have h := hlt a next hf
      simp only [refusal?, BEq.rfl, if_true]
      omega
    | error e =>
      rw [hkeep a next e hf] at hrest ⊢
      simpa [refusal?] using hrest

lemma rank_le (s : Status) : s.rank ≤ 2 := by
  cases s <;> decide

end Status

open Status (InStep)

/-- An operation after some steps. -/
def Operation.moved (o : Operation) (l : List Status) : Operation :=
  Status.moved transitionTo o l

/-- What some steps of an operation are answered. -/
def Operation.answers (o : Operation) (l : List Status) :
    List (Option TransitionError) :=
  Status.answers transitionTo o l

namespace TypedOperation

/-- A typed operation after some steps. -/
def moved (t : TypedOperation) (l : List Status) : TypedOperation :=
  Status.moved transitionTo t l

/-- What some steps of a typed operation are answered. -/
def answers (t : TypedOperation) (l : List Status) :
    List (Option TransitionError) :=
  Status.answers transitionTo t l

variable {o : Operation} {kind : String} {t : TypedOperation}

/-! ### Typed and untyped -/

/-- A typed operation with nothing changed but its status. -/
def withStatus (t : TypedOperation) (status : Status) : TypedOperation :=
  t.withHeader { t.header with status }

/-- The status is no part of what is decoded. -/
lemma ofOperation_withStatus (hof : ofOperation o kind = .ok t)
    (status : Status) :
    ofOperation { o with status } kind = .ok (t.withStatus status) := by
  obtain ⟨payload, hp⟩ := exists_fragment hof
  have hm := (ofOperation_eq_ok_iff hp).1 hof
  have hp' : Operation.fragment? { o with status } kind = some payload := hp
  rw [ofOperation_eq_ok_iff hp']
  cases hm with
  | restart hk => exact .restart hk
  | softwareUpdate hk hd => exact .softwareUpdate hk hd
  | custom hr hs => exact .custom hr hs

lemma toOperation_withStatus (t : TypedOperation) (status : Status) :
    (t.withStatus status).toOperation
      = { t.toOperation with status } := by
  rw [toOperation, withStatus, header_withHeader, kind_withHeader,
    payload_withHeader]
  rfl

/-- What a step makes of an operation and its typed form. -/
inductive Stepped (o : Operation) (t : TypedOperation) (next : Status) :
    Operation → TypedOperation → Prop where
  /-- Both take it, and nothing changes but the status. -/
  | taken (ho : o.transitionTo next = (.ok (), { o with status := next }))
    (ht : t.transitionTo next = (.ok (), t.withStatus next)) :
    Stepped o t next { o with status := next } (t.withStatus next)
  /-- Both refuse it in the same words, and nothing changes. -/
  | refused (ho : o.transitionTo next = (.error ⟨o.id, o.status, next⟩, o))
    (ht : t.transitionTo next = (.error ⟨o.id, o.status, next⟩, t)) :
    Stepped o t next o t

/-- With one identifier and one status, the same steps are taken. -/
lemma stepped_of_eq (hid : t.id = o.id) (hstatus : t.status = o.status)
    (next : Status) :
    Stepped o t next (o.transitionTo next).2 (t.transitionTo next).2 := by
  cases hb : o.status.canBecome next with
  | true =>
    have ho : o.transitionTo next = (.ok (), { o with status := next }) := by
      rw [Operation.transitionTo, if_pos hb]
    have ht : t.transitionTo next = (.ok (), t.withStatus next) := by
      rw [transitionTo, hstatus, if_pos hb, withStatus]
    rw [ho, ht]
    exact .taken ho ht
  | false =>
    have hno : ¬o.status.canBecome next = true := by simp [hb]
    have ho : o.transitionTo next
        = (.error ⟨o.id, o.status, next⟩, o) := by
      rw [Operation.transitionTo, if_neg hno]
    have ht : t.transitionTo next
        = (.error ⟨o.id, o.status, next⟩, t) := by
      rw [transitionTo, hid, hstatus, if_neg hno]
    rw [ho, ht]
    exact .refused ho ht

/-- What is kept by the operations as they are and by both with the new
status is kept by the step. -/
lemma inStep_of_eq {R : Operation → TypedOperation → Prop}
    (hid : t.id = o.id) (hstatus : t.status = o.status) (next : Status)
    (hR : R o t) (hnext : R { o with status := next } (t.withStatus next)) :
    InStep Operation.transitionTo transitionTo R o t next := by
  have h := stepped_of_eq hid hstatus next
  generalize (o.transitionTo next).2 = o' at h
  generalize (t.transitionTo next).2 = t' at h
  cases h with
  | taken ho ht => exact ⟨by rw [ho, ht], by rwa [ho, ht]⟩
  | refused ho ht => exact ⟨by rw [ho, ht], by rwa [ho, ht]⟩

lemma id_of_ofOperation (hof : ofOperation o kind = .ok t) :
    t.id = o.id := by
  rw [id, (ofOperation_eq_ok hof).2]
  rfl

lemma status_of_ofOperation (hof : ofOperation o kind = .ok t) :
    t.status = o.status := by
  rw [status, (ofOperation_eq_ok hof).2]
  rfl

/-- A step of an operation and one of its typed form. -/
lemma inStep_ofOperation (next : Status)
    (hof : ofOperation o kind = .ok t) :
    InStep Operation.transitionTo transitionTo
      (fun o t => ofOperation o kind = .ok t) o t next :=
  inStep_of_eq (id_of_ofOperation hof) (status_of_ofOperation hof) next hof
    (ofOperation_withStatus hof next)

/-- A step of a typed operation and one of what it is turned back to. -/
lemma inStep_toOperation (next : Status) (ho : o = t.toOperation) :
    InStep Operation.transitionTo transitionTo
      (fun o t => o = t.toOperation) o t next := by
  subst ho
  exact inStep_of_eq rfl rfl next rfl (toOperation_withStatus t next).symm

/-! ### Any number of steps -/

/-- The typed form of an operation that was moved. -/
lemma ofOperation_moved (hof : ofOperation o kind = .ok t)
    (l : List Status) : ofOperation (o.moved l) kind = .ok (t.moved l) :=
  InStep.rel_moved (fun _ _ next => inStep_ofOperation next) hof l

lemma answers_ofOperation (hof : ofOperation o kind = .ok t)
    (l : List Status) : o.answers l = t.answers l :=
  InStep.answers_eq (fun _ _ next => inStep_ofOperation next) hof l

/-- Moving commutes with turning back. -/
lemma toOperation_moved (t : TypedOperation) (l : List Status) :
    (t.moved l).toOperation = t.toOperation.moved l :=
  (InStep.rel_moved (fun _ _ next => inStep_toOperation next) rfl l).symm

/-- No operation takes more than two steps. -/
lemma count_answers_le (o : Operation) (l : List Status) :
    (o.answers l).count none ≤ 2 := by
  have hlt : ∀ (o : Operation) next, (o.transitionTo next).1 = .ok () →
      o.status.rank < (o.transitionTo next).2.status.rank := by
    intro o next ho
    have ht : o.transitionTo next = (.ok (), (o.transitionTo next).2) :=
      Prod.ext ho rfl
    obtain ⟨hb, heq⟩ := Operation.transitionTo_eq_ok_iff.1 ht
    rw [heq]
    exact Status.rank_lt_of_canBecome hb
  have h := Status.count_answers_add_le (fun o : Operation => o.status.rank)
    (fun o => o.status.rank_le) hlt
    (fun _ _ _ => Operation.snd_transitionTo_of_error) o l
  calc (o.answers l).count none
      ≤ (o.answers l).count none + o.status.rank := Nat.le_add_right _ _
    _ ≤ 2 := h

/-- A typed operation that was made from an operation and then moved, by
steps that it took and steps that it refused, is turned back to an
operation that makes the same typed operation again. -/
theorem ofOperation_toOperation_moved (hof : ofOperation o kind = .ok t)
    (l : List Status) :
    ofOperation (t.moved l).toOperation (t.moved l).kind
      = .ok (t.moved l) := by
  have hmoved := ofOperation_moved hof l
  rw [kind_ofOperation hmoved]
  exact ofOperation_again hmoved

/-- An update with an entry as an object, an entry as an array, and a
fragment that travels along. -/
def describedUpdate : Operation :=
  ((Operation.new "12").withFragment Kind.softwareList
    (.array
      [.object [("name", .string "agent"), ("version", .string "2.0")],
        .array [.string "driver", .string "7", .string "file:///d"]]))
    |>.withFragment "description" (.string "upgrade")

/-- Its typed form. -/
def typedUpdate : TypedOperation :=
  .softwareUpdate (.ofOperation describedUpdate Kind.softwareList)
    [⟨"agent", "2.0", none⟩, ⟨"driver", "7", some "file:///d"⟩]

lemma ofOperation_describedUpdate :
    ofOperation describedUpdate Kind.softwareList = .ok typedUpdate := rfl

/-- It takes two steps and refuses two, is written otherwise than it came,
and is read back. -/
theorem ofOperation_toOperation_typedUpdate :
    let t := typedUpdate.moved [.executing, .pending, .successful, .failed]
    ofOperation describedUpdate Kind.softwareList = .ok typedUpdate
      ∧ ofOperation t.toOperation t.kind = .ok t
      ∧ t.status = .successful
      ∧ t.toOperation.fragment? Kind.softwareList
        ≠ describedUpdate.fragment? Kind.softwareList := by
  intro t
  have hof := ofOperation_describedUpdate
  exact ⟨hof, ofOperation_toOperation_moved hof _, rfl, by decide⟩

/-- How an operation and its typed form go through some steps. -/
structure Lockstep (o : Operation) (kind : String) (t : TypedOperation)
    (l : List Status) : Prop where
  /-- Each step is taken by both or refused by both. -/
  step : ∀ pre next post, l = pre ++ next :: post →
    Stepped (o.moved pre) (t.moved pre) next (o.moved (pre ++ [next]))
      (t.moved (pre ++ [next]))
  answers : o.answers l = t.answers l
  /-- At most two steps are taken. -/
  count : (t.answers l).count none ≤ 2
  status : ∀ pre, pre <+: l → (t.moved pre).status = (o.moved pre).status
  /-- The typed form is that of the operation at every point. -/
  typed : ∀ pre, pre <+: l → ofOperation (o.moved pre) kind
    = .ok (t.moved pre)
  /-- Turning back at any point is moving what was turned back. -/
  back : ∀ pre, pre <+: l → (t.moved pre).toOperation
    = t.toOperation.moved pre

/-- An operation and its typed form go through any steps in the same
way. -/
theorem lockstep (hof : ofOperation o kind = .ok t) (l : List Status) :
    Lockstep o kind t l := by
  have hmoved := fun pre => ofOperation_moved hof pre
  have hstatus : ∀ pre, (t.moved pre).status = (o.moved pre).status :=
    fun pre => status_of_ofOperation (hmoved pre)
  refine
    { step := fun pre next _ _ => ?_
      answers := answers_ofOperation hof l
      count := answers_ofOperation hof l ▸ count_answers_le o l
      status := fun pre _ => hstatus pre
      typed := fun pre _ => hmoved pre
      back := fun pre _ => toOperation_moved t pre }
  have h := stepped_of_eq (id_of_ofOperation (hmoved pre)) (hstatus pre) next
  rw [Operation.moved, TypedOperation.moved] at h ⊢
  rwa [Operation.moved, TypedOperation.moved, Status.moved_append,
    Status.moved_append]

/-- An update that is refused a way back, and a second end. -/
theorem lockstep_typedUpdate :
    let l := [.executing, .pending, .successful, .failed]
    ofOperation describedUpdate Kind.softwareList = .ok typedUpdate
      ∧ Lockstep describedUpdate Kind.softwareList typedUpdate l
      ∧ describedUpdate.answers l = [none, some ⟨"12", .executing, .pending⟩,
        none, some ⟨"12", .successful, .failed⟩] := by
  intro l
  have hof := ofOperation_describedUpdate
  exact ⟨hof, lockstep hof l, by decide⟩

end TypedOperation

end RemoteOps
