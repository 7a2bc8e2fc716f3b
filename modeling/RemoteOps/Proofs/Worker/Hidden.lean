/-
What is left of a platform and of a worker when the outcome of one
operation is hidden.

* `Operation.hide`, `Event.hide`, `Worker.hide`: what is left;
* `MemoryPlatform.poll_hide`, `MemoryPlatform.writeStatus_hide`: the
  platform does not look at what is hidden;
* `FaultPattern`: surroundings in which calls fail by their number;
* `Site.Alike`: sites that differ in what is hidden, and what they make of
  the calls of a worker.
-/
import RemoteOps.Proofs.Platform.Faulty
import RemoteOps.Proofs.Worker.GracefulStop
import RemoteOps.Proofs.Worker.InHand

namespace RemoteOps

/-! ### Hidden outcomes -/

/-- An operation, without the outcome if it is the one in question. -/
def Operation.hide (a : String) (o : Operation) : Operation :=
  if o.id = a ∧ o.status.isTerminal = true then
    { o with status := .failed, failureReason := none }
  else o

/-- A write, without the outcome if it is for the operation in question. -/
def StatusWrite.hide (a : String) (w : StatusWrite) : StatusWrite :=
  if w.id = a ∧ w.status.isTerminal = true then
    { w with status := .failed, reason := none }
  else w

/-- An event; of a write for the operation in question, the outcome is
hidden. -/
def Event.hide (a : String) : Event → Event
  | .status id st reason r =>
    let w := StatusWrite.hide a ⟨id, st, reason⟩
    .status w.id w.status w.reason r
  | e => e

/-- A memory, in which the outcome of the operation in question is
hidden. -/
def MemoryPlatform.hide (a : String) (m : MemoryPlatform) :
    MemoryPlatform :=
  { m with
    operations := m.operations.map (·.hide a)
    writes := m.writes.map (·.hide a) }

/-- What a call is doing, but not how it ends. -/
def CallPhase.hide : CallPhase → CallPhase
  | .running due _ => .running due .panicked
  | .ended (some _) => .ended (some .panicked)
  | ph => ph

/-- A call; how it ends is hidden if it is for the operation in
question. -/
def HandlerCall.hide (a : String) (c : HandlerCall) : HandlerCall :=
  if c.operation.id = a then { c with phase := c.phase.hide } else c

/-- What a loop is doing; the outcome that it reports is hidden if it is
that of the operation in question. -/
def LoopPhase.hide (a : String) : LoopPhase → LoopPhase
  | .reporting o due => .reporting (o.hide a) due
  | ph => ph

/-- A loop, with the outcome hidden. -/
def PollLoop.hide (a : String) (l : PollLoop) : PollLoop :=
  { l with phase := l.phase.hide a }

/-- A worker, with the outcome hidden. -/
def Worker.hide (a : String) (w : Worker) : Worker :=
  { w with
    loops := w.loops.map (·.hide a)
    calls := w.calls.map (·.hide a) }

section Hide

variable {a : String} {o o' : Operation}

@[simp]
lemma Operation.id_hide (a : String) (o : Operation) :
    (o.hide a).id = o.id := by
  unfold hide
  split <;> rfl

lemma Operation.hide_of_not (h : o.status.isTerminal = false) :
    o.hide a = o := by
  rw [hide, if_neg]
  simp [h]

/-- Whether an operation is done is not hidden. -/
lemma Operation.isTerminal_hide (a : String) (o : Operation) :
    (o.hide a).status.isTerminal = o.status.isTerminal := by
  unfold hide
  split
  · next h => rw [h.2]; rfl
  · rfl

/-- An operation that is not done shows all of itself. -/
lemma Operation.eq_of_hide (h : o.hide a = o'.hide a)
    (ho : o.status.isTerminal = false) : o' = o := by
  have ho' : o'.status.isTerminal = false := by
    rw [← o'.isTerminal_hide a, ← h, o.isTerminal_hide a, ho]
  rw [hide_of_not ho, hide_of_not ho'] at h
  exact h.symm

/-- What a loop is doing is not hidden, unless it reports an outcome. -/
lemma LoopPhase.eq_of_hide {ph ph' : LoopPhase}
    (h : ph'.hide a = ph.hide a) (hne : ∀ o due, ph ≠ .reporting o due) :
    ph' = ph := by
  cases ph with
  | reporting o due => exact absurd rfl (hne o due)
  | _ =>
    cases ph' with
    | reporting => cases h
    | _ => exact h

lemma LoopPhase.exists_reporting {ph' : LoopPhase} {due : Nat}
    (h : ph'.hide a = hide a (.reporting o due)) :
    ∃ o', ph' = .reporting o' due ∧ o'.hide a = o.hide a := by
  cases ph' with
  | reporting o' due' =>
    obtain ⟨ho, rfl⟩ := LoopPhase.reporting.inj h
    exact ⟨o', rfl, ho⟩
  | _ => cases h

lemma PollLoop.isOver_hide (a : String) (l : PollLoop) :
    (l.hide a).isOver = l.isOver := by
  unfold isOver hide
  cases l.phase <;> rfl

/-- What is hidden of a call is how it ends, but not that it has begun. -/
lemma CallPhase.eq_spawned {ph : CallPhase}
    (h : ph.hide = hide .spawned) : ph = .spawned := by
  cases ph with
  | spawned => rfl
  | running => cases h
  | ended r => cases r <;> cases h

lemma CallPhase.exists_running {ph : CallPhase} {due : Nat}
    {outcome : Outcome} (h : ph.hide = hide (.running due outcome)) :
    ∃ outcome', ph = .running due outcome' := by
  cases ph with
  | spawned => cases h
  | running due' outcome' =>
    obtain ⟨rfl, -⟩ := CallPhase.running.inj h
    exact ⟨outcome', rfl⟩
  | ended r => cases r <;> cases h

/-- Nor is it that it has ended. -/
lemma CallPhase.exists_ended {ph : CallPhase} {r : Option Outcome}
    (h : ph.hide = hide (.ended r)) : ∃ r', ph = .ended r' := by
  cases ph with
  | ended r' => exact ⟨r', rfl⟩
  | _ => cases r <;> cases h

namespace HandlerCall

variable {c c' : HandlerCall}

@[simp]
lemma operation_hide (a : String) (c : HandlerCall) :
    (c.hide a).operation = c.operation := by
  unfold hide
  split <;> rfl

/-- What two calls show is the same if only their ends differ, and only for
the operation in question. -/
lemma hide_eq_iff : c'.hide a = c.hide a ↔ c'.handler = c.handler
    ∧ c'.operation = c.operation ∧ c'.aborted = c.aborted
    ∧ (c'.phase = c.phase
      ∨ c.operation.id = a ∧ c'.phase.hide = c.phase.hide) := by
  constructor
  · intro h
    have hop : c'.operation = c.operation := by
      rw [← c'.operation_hide a, h, c.operation_hide]
    unfold hide at h
    by_cases hid : c.operation.id = a
    · rw [if_pos hid, if_pos (hop ▸ hid)] at h
      exact ⟨(congrArg handler h :), hop, (congrArg aborted h :),
        .inr ⟨hid, (congrArg phase h :)⟩⟩
    · rw [if_neg hid, if_neg (hop ▸ hid)] at h
      exact ⟨by rw [h], hop, by rw [h], .inl (by rw [h])⟩
  · rintro ⟨hh, hop, ha, hph⟩
    obtain ⟨h₁, t₁, ph₁, a₁⟩ := c
    obtain ⟨h₂, t₂, ph₂, a₂⟩ := c'
    obtain rfl : h₂ = h₁ := hh
    obtain rfl : t₂ = t₁ := hop
    obtain rfl : a₂ = a₁ := ha
    rcases hph with hph | ⟨hid, hph⟩
    · obtain rfl : ph₂ = ph₁ := hph
      rfl
    · simp only [hide, if_pos hid]
      exact congrArg (fun ph => HandlerCall.mk h₂ t₂ ph a₂) hph

lemma hide_phase_eq (h : c'.hide a = c.hide a) :
    c'.phase.hide = c.phase.hide := by
  obtain ⟨-, -, -, hph | ⟨-, hph⟩⟩ := hide_eq_iff.1 h
  · rw [hph]
  · exact hph

/-- The end of a call is seen in spite of what is hidden. -/
lemma exists_result? (h : c'.hide a = c.hide a) {r : Option Outcome}
    (hr : c.result? = some r) :
    ∃ r', c'.result? = some r' ∧ (r' = r ∨ c.operation.id = a) := by
  have hph : c.phase = .ended r := by
    rw [result?] at hr
    split at hr
    · next heq => rw [heq, Option.some.inj hr]
    · cases hr
  obtain ⟨-, -, -, hsame | ⟨hid, hhide⟩⟩ := hide_eq_iff.1 h
  · exact ⟨r, by rw [result?, hsame, hph], .inl rfl⟩
  · obtain ⟨r', hr'⟩ := CallPhase.exists_ended (hph ▸ hhide)
    exact ⟨r', by rw [result?, hr'], .inr hid⟩

lemma isOver_eq_of_hide (h : c'.hide a = c.hide a) :
    c'.isOver = c.isOver := by
  have hph := hide_phase_eq h
  unfold isOver result?
  cases hc : c.phase with
  | spawned =>
    have hc' : c'.phase = .spawned := CallPhase.eq_spawned (hc ▸ hph)
    rw [hc']
  | running due outcome =>
    obtain ⟨outcome', hc'⟩ := CallPhase.exists_running (hc ▸ hph)
    rw [hc']
  | ended r =>
    obtain ⟨r', hc'⟩ := CallPhase.exists_ended (hc ▸ hph)
    rw [hc']
    rfl

end HandlerCall

/-- The write of an operation shows as much as the operation. -/
lemma Operation.hide_write (a : String) (o : Operation) :
    StatusWrite.hide a ⟨o.id, o.status, o.failureReason⟩
      = ⟨o.id, (o.hide a).status, (o.hide a).failureReason⟩ := by
  rw [StatusWrite.hide, Operation.hide]
  split <;> rfl

end Hide

/-! ### The memory -/

namespace MemoryPlatform

variable {a : String}

/-- A pending operation is found in spite of what is hidden. -/
lemma find?_pending_hide (a : String) (l : List Operation) :
    (l.map (·.hide a)).find? (fun o => o.status = .pending)
      = l.find? fun o => o.status = .pending := by
  induction l with
  | nil => rfl
  | cons o l ih =>
    rw [List.map_cons, List.find?_cons, List.find?_cons, ih]
    by_cases ht : o.status.isTerminal = true
    · have hne : ∀ o' : Operation, o'.status.isTerminal = true →
          decide (o'.status = .pending) = false := fun o' h' => by
        rw [decide_eq_false_iff_not]
        intro hp
        rw [hp] at h'
        cases h'
      rw [hne o ht, hne _ ((o.isTerminal_hide a).trans ht)]
    · rw [Operation.hide_of_not (by simpa using ht)]

/-- A poll does not look at what is hidden. -/
lemma poll_hide (a : String) (m : MemoryPlatform) :
    (m.hide a).poll = (m.poll.1, m.poll.2.hide a) := by
  unfold poll
  dsimp only
  by_cases hz : m.failingPolls ≠ 0
  · rw [if_pos hz, if_pos (show (m.hide a).failingPolls ≠ 0 from hz)]
    rfl
  · have hfind : (m.hide a).operations.find? (fun o => o.status = .pending)
        = m.operations.find? fun o => o.status = .pending :=
      find?_pending_hide a m.operations
    rw [if_neg hz, if_neg (show ¬ (m.hide a).failingPolls ≠ 0 from hz), hfind]
    rfl

lemma isNone_operation?_hide (a id : String) (m : MemoryPlatform) :
    ((m.hide a).operation? id).isNone = (m.operation? id).isNone := by
  have hid : (fun o => decide (o.id = id)) ∘ Operation.hide a
      = fun o => decide (o.id = id) := by
    funext o
    exact congrArg (decide <| · = id) (o.id_hide a)
  simp only [operation?, hide]
  rw [List.find?_map, Option.isNone_map, hid]

/-- A write of a status hides what it replaces. -/
lemma hide_modifyFirst (a : String) (w : StatusWrite) (l : List Operation) :
    (modifyFirst w.id (fun o =>
        { o with status := w.status, failureReason := w.reason }) l).map
          (·.hide a)
      = modifyFirst w.id (fun o => { o with
          status := (w.hide a).status
          failureReason := (w.hide a).reason }) (l.map (·.hide a)) := by
  have hwrite : ∀ o : Operation, o.id = w.id →
      Operation.hide a ⟨o.id, w.status, o.fragments, w.reason⟩
      = ⟨(o.hide a).id, (w.hide a).status, (o.hide a).fragments,
        (w.hide a).reason⟩ := by
    intro o ho
    have hfr : (o.hide a).fragments = o.fragments := by
      unfold Operation.hide
      split <;> rfl
    rw [Operation.id_hide, hfr, Operation.hide, StatusWrite.hide, ← ho]
    split <;> rfl
  induction l with
  | nil => rfl
  | cons o l ih =>
    rw [modifyFirst, List.map_cons, modifyFirst, Operation.id_hide]
    split
    · next ho => rw [List.map_cons, hwrite o ho, Operation.id_hide]
    · rw [List.map_cons, ih]

/-- The write of a status does not look at what is hidden, and nothing but
its own outcome is hidden of it. -/
lemma writeStatus_hide (a : String) (m : MemoryPlatform) (w : StatusWrite) :
    (m.hide a).writeStatus w.id (w.hide a).status (w.hide a).reason
      = ((m.writeStatus w.id w.status w.reason).1,
        (m.writeStatus w.id w.status w.reason).2.hide a) := by
  have hid : ∀ w : StatusWrite, (w.hide a).id = w.id := fun w => by
    unfold StatusWrite.hide
    split <;> rfl
  have hw : (⟨w.id, (w.hide a).status, (w.hide a).reason⟩ : StatusWrite)
      = w.hide a := by rw [← hid w]
  have hnone := isNone_operation?_hide a w.id m
  simp only [writeStatus, write]
  by_cases hz : m.failingWrites ≠ 0
  · rw [if_pos hz, if_pos (show (m.hide a).failingWrites ≠ 0 from hz)]
    rfl
  · rw [if_neg hz, if_neg (show ¬ (m.hide a).failingWrites ≠ 0 from hz), hnone]
    by_cases hu : (m.operation? w.id).isNone = true
    · rw [if_pos hu, if_pos hu]
    · rw [if_neg hu, if_neg hu, hw]
      simp only [hide, hide_modifyFirst, List.map_append, List.map_cons,
        List.map_nil]

end MemoryPlatform

/-! ### Platforms that fail by the number of the call -/

variable {τ : Type}

/-- Surroundings of a platform in memory that only look at the calls that
were made: how long a call takes, and whether it fails, does not depend on
what the memory holds. -/
structure FaultPattern (τ : Type) where
  delay : τ → Call → Nat
  /-- The failure of a call that does not get through. -/
  fault : τ → Call → Option Failure
  /-- The surroundings after a call of the platform. -/
  next : τ → Call → τ
  /-- The surroundings after a call of a handler. -/
  executed : τ → τ

namespace FaultPattern

variable (P : FaultPattern τ) (f : τ → Handler → TypedOperation → Outcome)

/-- The pattern, with handlers that answer at once. -/
def faults : Faults τ where
  delay x c := P.delay x.2 c
  execute x h t := ({ outcome := f x.2 h t }, P.executed x.2)
  fault x c := P.fault x.2 c
  next x c := P.next x.2 c

/-- A platform in memory whose calls fail by the pattern. -/
def platform : Platform (MemoryPlatform × τ) := (P.faults f).platform

end FaultPattern

/-- Two sites that differ in what is hidden, and in what was counted. -/
structure Site.Alike (a : String) (s s' : Site (MemoryPlatform × τ)) :
    Prop where
  now : s'.now = s.now
  memory : s'.world.1.hide a = s.world.1.hide a
  around : s'.world.2 = s.world.2
  calls : s'.journal.calls.map (Event.hide a)
    = s.journal.calls.map (Event.hide a)

namespace Site.Alike

variable {a : String} {s s' s'' : Site (MemoryPlatform × τ)}
  (P : FaultPattern τ) (f f' : τ → Handler → TypedOperation → Outcome)

lemma refl (s : Site (MemoryPlatform × τ)) : s.Alike a s :=
  ⟨rfl, rfl, rfl, rfl⟩

lemma symm (h : s.Alike a s') : s'.Alike a s :=
  ⟨h.now.symm, h.memory.symm, h.around.symm, h.calls.symm⟩

lemma trans (h : s.Alike a s') (h' : s'.Alike a s'') : s.Alike a s'' :=
  ⟨h'.now.trans h.now, h'.memory.trans h.memory, h'.around.trans h.around,
    h'.calls.trans h.calls⟩

/-- What is counted does not matter. -/
lemma note (s : Site (MemoryPlatform × τ)) {e : Event}
    (he : e.isCall = false) : s.Alike a (s.note e) :=
  ⟨rfl, rfl, rfl, by
    rw [show (s.note e).journal.calls = s.journal.calls from
      Journal.calls_cons_of_not_isCall he _]⟩

/-- Nor does it if it differs. -/
lemma note₂ (h : s.Alike a s') {e e' : Event} (he : e.isCall = false)
    (he' : e'.isCall = false) : (s.note e).Alike a (s'.note e') :=
  ((note s he).symm.trans h).trans (note s' he')

/-- A call was answered in the same way. -/
lemma answered (h : s.Alike a s') {x x' : MemoryPlatform × τ} {e e' : Event}
    (hm : x'.1.hide a = x.1.hide a) (hx : x'.2 = x.2)
    (he : e.isCall = true) (he' : e'.isCall = true)
    (hh : e'.hide a = e.hide a) :
    (s.answered x e).Alike a (s'.answered x' e') where
  now := h.now
  memory := hm
  around := hx
  calls := by
    rw [Worker.calls_answered s x he, Worker.calls_answered s' x' he',
      List.map_append, List.map_append, h.calls, List.map_singleton,
      List.map_singleton, hh]

lemma due (h : s.Alike a s') (c : Call) :
    s'.due (P.platform f') c = s.due (P.platform f) c := by
  show Clock.after s'.now (P.delay s'.world.2 c)
    = Clock.after s.now (P.delay s.world.2 c)
  rw [h.now, h.around]

/-- A call that the memory answers in the same way. -/
lemma call (h : s.Alike a s') {α : Type} (c : Call)
    (g g' : MemoryPlatform → Except Failure α × MemoryPlatform)
    (hr : (g' s'.world.1).1 = (g s.world.1).1)
    (hm : (g' s'.world.1).2.hide a = (g s.world.1).2.hide a) :
    ((P.faults f').call s'.world c g').1 = ((P.faults f).call s.world c g).1
      ∧ ((P.faults f').call s'.world c g').2.1.hide a
        = ((P.faults f).call s.world c g).2.1.hide a
      ∧ ((P.faults f').call s'.world c g').2.2
        = ((P.faults f).call s.world c g).2.2 := by
  have hfault : (P.faults f').fault s'.world c
      = (P.faults f).fault s.world c := congrArg (P.fault · c) h.around
  have hnext : (P.faults f').next s'.world c
      = (P.faults f).next s.world c := congrArg (P.next · c) h.around
  rw [Faults.call, Faults.call, hfault]
  cases (P.faults f).fault s.world c with
  | some e => exact ⟨rfl, h.memory, hnext⟩
  | none => exact ⟨hr, hm, hnext⟩

/-- A poll is answered in the same way. -/
lemma poll (h : s.Alike a s') :
    (s'.poll (P.platform f')).1 = (s.poll (P.platform f)).1
      ∧ (s.poll (P.platform f)).2.Alike a (s'.poll (P.platform f')).2 := by
  have hpoll := congrArg MemoryPlatform.poll h.memory
  rw [MemoryPlatform.poll_hide, MemoryPlatform.poll_hide,
    Prod.mk.injEq] at hpoll
  obtain ⟨hr, hm, hx⟩ := h.call P f f' .poll (·.poll) (·.poll)
    hpoll.1 hpoll.2
  exact ⟨hr, h.answered hm hx rfl rfl (congrArg Event.poll hr)⟩

/-- So is a write. -/
lemma writeStatus (h : s.Alike a s') {o o' : Operation}
    (ho : o'.hide a = o.hide a) :
    (s'.writeStatus (P.platform f') o').1
        = (s.writeStatus (P.platform f) o).1
      ∧ (s.writeStatus (P.platform f) o).2.Alike a
        (s'.writeStatus (P.platform f') o').2 := by
  have hid : o'.id = o.id := by rw [← o'.id_hide a, ho, o.id_hide]
  have hw : StatusWrite.hide a ⟨o'.id, o'.status, o'.failureReason⟩
      = StatusWrite.hide a ⟨o.id, o.status, o.failureReason⟩ := by
    rw [o'.hide_write, o.hide_write, ho, hid]
  have hhide := s.world.1.writeStatus_hide a
    ⟨o.id, o.status, o.failureReason⟩
  have hhide' := s'.world.1.writeStatus_hide a
    ⟨o'.id, o'.status, o'.failureReason⟩
  rw [h.memory, hw] at hhide'
  have hsame := hhide'.symm.trans ((congrArg ((s.world.1.hide a).writeStatus ·
    _ _) hid).trans hhide)
  obtain ⟨hr₀, hm₀⟩ := Prod.mk.inj hsame
  obtain ⟨hr, hm, hx⟩ := h.call P f f' .status
    (·.writeStatus o.id o.status o.failureReason)
    (·.writeStatus o'.id o'.status o'.failureReason) hr₀ hm₀
  refine ⟨hr, h.answered hm hx rfl rfl ?_⟩
  have hr' : (s'.writeStatus (P.platform f') o').1
      = (s.writeStatus (P.platform f) o).1 := hr
  show Event.hide a (.status o'.id o'.status o'.failureReason
      (s'.writeStatus (P.platform f') o').1)
    = Event.hide a (.status o.id o.status o.failureReason
      (s.writeStatus (P.platform f) o).1)
  rw [Event.hide, Event.hide, hw, hr']

/-- A handler may answer something else if that is hidden. -/
lemma execute (h : s.Alike a s') (hd : Handler) (t : TypedOperation) :
    (s.execute (P.platform f) hd t).2.Alike a
      (s'.execute (P.platform f') hd t).2 :=
  h.answered h.memory (congrArg P.executed h.around) rfl rfl rfl

end Site.Alike

end RemoteOps
