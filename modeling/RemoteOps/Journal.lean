/-
The journal of a run: what happened and when, the latest entry first.

Every platform call is entered when it has answered, so that a call
which is cut off leaves no trace; a call of a handler is entered when it
begins and when it is about to return.  The counters of the agent are
read off the journal.

* `Journal.count_cons`: an entry counts for its own counter only;
* `Journal.list_perm`: a listing leaves out and adds nothing that is
  shown.
-/
import RemoteOps.Platform.Basic
import RemoteOps.Span

namespace RemoteOps

/-- The counters of the agent. -/
inductive Counter where
  /-- Operations that the agent is done with. -/
  | operations (verdict : Verdict)
  /-- Cycles of the worker that failed. -/
  | pollErrors
  /-- Operations that were settled at startup. -/
  | reconciled (kind : String) (status : Status)
deriving DecidableEq, Repr

/-- The name of a counter with its labels. -/
def Counter.name (c : Counter) : String :=
  let labelled (name : String) (labels : List (String × String)) :=
    name ++ String.singleton (Char.ofNat 0x7b)
      ++ String.intercalate "," (labels.map fun l => l.1 ++ "=" ++ l.2)
      ++ String.singleton (Char.ofNat 0x7d)
  match c with
  | operations v =>
    labelled "devagent_operations_total" [("outcome", v.name)]
  | pollErrors => labelled "devagent_operation_poll_errors_total" []
  | reconciled kind status =>
    labelled "devagent_reconciled_operations_total"
      [("kind", kind), ("status", status.name)]

/-- What can happen in a run. -/
inductive Event where
  | poll (r : Except Failure (Option Operation))
  | status (id : String) (status : Status) (reason : Option String)
    (r : Except Failure Unit)
  | query (kind : String) (status : Status) (pageSize page : Nat)
    (r : Except Failure OperationPage)
  | update (o : Operation) (r : Except Failure Unit)
  | publish (kinds : List String) (r : Except Failure Unit)
  | installed (r : Except Failure (List InstalledSoftware))
  /-- A handler is called. -/
  | execute (h : Handler) (t : TypedOperation)
  /-- A handler is about to return. -/
  | finish (h : Handler) (t : TypedOperation)
  /-- A component is told to start. -/
  | start (c : Component)
  /-- A component has started. -/
  | started (c : Component)
  /-- A component is told to stop. -/
  | stop (c : Component)
  /-- A component has stopped. -/
  | stopped (c : Component)
  /-- A counter goes up by one. -/
  | counted (c : Counter)
  /-- The call of a caller has returned. -/
  | returned (caller : Nat)

/-- An event and its time. -/
structure Entry where
  time : Nat
  event : Event

/-- What happened, the latest entry first. -/
abbrev Journal := List Entry

namespace Journal

/-- Whether an entry counts for a counter. -/
def counts (c : Counter) (e : Entry) : Bool :=
  match e.event with
  | .counted c' => c = c'
  | _ => false

/-- The value of a counter. -/
def count (c : Counter) (j : Journal) : Nat := j.countP (counts c)

/-- The counters that went up, by name, with their values. -/
def metrics (j : Journal) : Dict Nat :=
  j.foldr (fun e d =>
    match e.event with
    | .counted c => d.insert c.name ((d.find? c.name).getD 0 + 1)
    | _ => d) .empty

/-- The entries that came after the first `n`, in the order of time. -/
def since (n : Nat) (j : Journal) : List Entry :=
  (j.take (j.length - n)).reverse

/-! ### Listing entries -/

/-- Whether an event is one of the run itself, and no count and no return
of a caller. -/
def isShown (e : Entry) : Bool :=
  match e.event with
  | .counted _ | .returned _ => false
  | _ => true

/-- The place of an entry among parallel stops: those that begin first,
then those that are over, each by the number of the component. -/
def stopRank? (e : Entry) : Option (Nat × Nat) :=
  match e.event with
  | .stop c => some (0, c.uid)
  | .stopped c => some (1, c.uid)
  | _ => none

/-- Whether one entry stands after another among parallel stops of one
instant. -/
def standsAfter (e e' : Entry) : Bool :=
  match stopRank? e, stopRank? e' with
  | some r, some r' =>
    e.time = e'.time && (r'.1 < r.1 || r'.1 = r.1 && r'.2 < r.2)
  | _, _ => false

/-- Puts an entry in front, behind the parallel stops that come
before it. -/
def insertStop (e : Entry) : List Entry → List Entry
  | [] => [e]
  | e' :: l =>
    if standsAfter e e' then e' :: insertStop e l else e :: e' :: l

/-- The shown entries, where neighbouring stops of one instant stand in
their own order: they happen in parallel. -/
def list (l : List Entry) : List Entry :=
  (l.filter isShown).foldr insertStop []

theorem insertStop_perm (e : Entry) (l : List Entry) :
    (insertStop e l).Perm (e :: l) := by
  induction l with
  | nil => exact .refl _
  | cons e' l ih =>
    simp only [insertStop]
    split
    · exact (ih.cons e').trans (.swap e e' l)
    · exact .refl _

theorem list_perm (l : List Entry) :
    (list l).Perm (l.filter isShown) := by
  unfold list
  induction l.filter isShown with
  | nil => exact .refl _
  | cons e l ih => exact (insertStop_perm e _).trans (ih.cons e)

theorem count_cons (c : Counter) (e : Entry) (j : Journal) :
    count c (e :: j) = count c j + if counts c e then 1 else 0 :=
  List.countP_cons

end Journal

/-! ### The site of a run -/

/-- Where a run takes place: the clock, the state of the platform and
the journal. -/
structure Site (σ : Type) where
  now : Nat := 0
  world : σ
  journal : Journal := []

namespace Site

variable {σ : Type} (p : Platform σ)

/-- Enters an event at the present time. -/
def note (s : Site σ) (e : Event) : Site σ :=
  { s with journal := ⟨s.now, e⟩ :: s.journal }

/-- Replaces the state of the platform and enters an event. -/
def answered (s : Site σ) (w : σ) (e : Event) : Site σ :=
  { s with world := w }.note e

/-- When a call that is made now will answer. -/
def due (s : Site σ) (c : Call) : Nat :=
  Clock.after s.now (p.delay s.world c)

/-- Asks for the next pending operation. -/
def poll (s : Site σ) : Except Failure (Option Operation) × Site σ :=
  let (r, w) := p.poll s.world
  (r, s.answered w (.poll r))

/-- Writes the status and the reason of an operation. -/
def writeStatus (s : Site σ) (o : Operation) :
    Except Failure Unit × Site σ :=
  let (r, w) := p.writeStatus s.world o.id o.status o.failureReason
  (r, s.answered w (.status o.id o.status o.failureReason r))

/-- Asks for a page of operations. -/
def query (s : Site σ) (kind : String) (status : Status)
    (pageSize page : Nat) : Except Failure OperationPage × Site σ :=
  let (r, w) := p.query s.world kind status pageSize page
  (r, s.answered w (.query kind status pageSize page r))

/-- Writes a whole operation. -/
def update (s : Site σ) (o : Operation) : Except Failure Unit × Site σ :=
  let (r, w) := p.update s.world o
  (r, s.answered w (.update o r))

/-- Publishes the kinds that the device can execute. -/
def publish (s : Site σ) (kinds : List String) :
    Except Failure Unit × Site σ :=
  let (r, w) := p.publish s.world kinds
  (r, s.answered w (.publish kinds r))

/-- Asks for the installed software. -/
def installed (s : Site σ) :
    Except Failure (List InstalledSoftware) × Site σ :=
  let (r, w) := p.installed s.world
  (r, s.answered w (.installed r))

/-- Calls a handler: what it is going to do. -/
def execute (s : Site σ) (h : Handler) (t : TypedOperation) :
    Behavior × Site σ :=
  let (b, w) := p.execute s.world h t
  (b, s.answered w (.execute h t))

end Site

end RemoteOps
