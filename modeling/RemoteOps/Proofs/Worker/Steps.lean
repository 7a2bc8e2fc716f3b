/-
What the steps of a worker's tasks do, on any platform.

A step of a loop enters at most one call of the platform and takes the
loop from one phase to another; a step of a call of a handler enters the
call when it begins.

* `Site.Gains`: what a step enters in the journal;
* `LoopMove`, `Worker.stepLoop_cases`: the steps of a loop;
* `CallMove`, `Worker.stepCall_cases`: the steps of a call.
-/
import RemoteOps.Proofs.Worker.Ledger

namespace RemoteOps

/-! ### Calls in the journal -/

namespace Event

/-- A call of the platform or of a handler. -/
def isCall : Event → Bool
  | .poll _ | .status .. | .query .. | .update .. | .publish ..
  | .installed _ | .execute .. => true
  | .finish .. | .start _ | .started _ | .stop _ | .stopped _
  | .counted _ | .returned _ => false

/-- An event that the tasks of a worker enter. -/
def isOfWorker : Event → Bool
  | .poll _ | .status .. | .execute .. | .finish .. | .counted _ => true
  | .query .. | .update .. | .publish .. | .installed _ | .start _
  | .started _ | .stop _ | .stopped _ | .returned _ => false

end Event

namespace Journal

/-- The calls of the platform and of handlers, the oldest first. -/
def calls (j : Journal) : List Event := j.events.filter Event.isCall

lemma calls_cons_of_not_isCall {e : Entry} (h : e.event.isCall = false)
    (j : Journal) : calls (e :: j) = calls j := by
  rw [calls, events_cons, List.filter_append, calls]
  simp [h]

/-- What was recorded can be read off the calls. -/
lemma written_eq (j : Journal) :
    j.written = j.calls.filterMap Event.write? := by
  induction j with
  | nil => rfl
  | cons e j ih =>
    have hcalls : calls (e :: j)
        = calls j ++ [e.event].filter Event.isCall := by
      rw [calls, events_cons, List.filter_append]
      rfl
    rw [written_cons, ih, hcalls, List.filterMap_append]
    congr 1
    cases e.event with
    | status _ _ _ r | update _ r => cases r <;> rfl
    | _ => rfl

end Journal

variable {σ : Type} {p : Platform σ} {s s' : Site σ}

lemma Site.Enters.calls {es : List Event} (h : s.Enters es s') :
    s'.journal.calls = s.journal.calls ++ es.filter Event.isCall := by
  rw [Journal.calls, h.events, List.filter_append, Journal.calls]

/-- A worker's task has entered some events, and these calls among
them. -/
structure Site.Gains (s : Site σ) (new : List Event) (s' : Site σ) :
    Prop where
  enters : ∃ es, s.Enters es s' ∧ es.filter Event.isCall = new
    ∧ ∀ e ∈ es, e.isOfWorker = true

namespace Site.Gains

variable {new : List Event}

lemma refl (s : Site σ) : s.Gains [] s :=
  ⟨[], .refl s, rfl, fun _ h => by cases h⟩

lemma now (h : s.Gains new s') : s'.now = s.now := by
  obtain ⟨es, he, -⟩ := h.enters
  exact he.now

lemma calls (h : s.Gains new s') :
    s'.journal.calls = s.journal.calls ++ new := by
  obtain ⟨es, he, rfl, -⟩ := h.enters
  exact he.calls

/-- One call is entered. -/
lemma call (s : Site σ) (world : σ) {e : Event} (hc : e.isCall = true)
    (hw : e.isOfWorker = true) : s.Gains [e] (s.answered world e) := by
  refine ⟨[e], .answered s world e, by simp [hc], fun e' he' => ?_⟩
  rw [List.mem_singleton.1 he', hw]

/-- A count or the end of a call is entered. -/
lemma quiet (h : s.Gains new s') {e : Event} (hc : e.isCall = false)
    (hw : e.isOfWorker = true) : s.Gains new (s'.note e) := by
  obtain ⟨es, he, hnew, hes⟩ := h.enters
  refine ⟨es ++ [e], he.note e, by simp [hc, hnew], fun e' he' => ?_⟩
  rcases List.mem_append.1 he' with he' | he'
  · exact hes e' he'
  · rw [List.mem_singleton.1 he', hw]

end Site.Gains

/-! ### Steps of a loop -/

namespace Worker

/-- The phase of a loop that goes on to the next cycle, if it is to. -/
def Renews (w : Worker) (phase : LoopPhase) : Prop :=
  w.running = true ∧ (∃ due, phase = .polling due)
    ∨ w.running = false ∧ phase = .exited

/-- The phase of a loop after the last write of a cycle. -/
def Ends (w : Worker) (r : Except Failure Unit) (phase : LoopPhase) : Prop :=
  match r with
  | .ok () => w.Renews phase
  | .error _ => ∃ due, phase = .idle due

/-- A loop that goes on to the next cycle holds no operation. -/
lemma Renews.isFree {w : Worker} {phase : LoopPhase} (h : w.Renews phase) :
    phase.IsFree := by
  rcases h with ⟨-, due, rfl⟩ | ⟨-, rfl⟩ <;> trivial

lemma Ends.isFree {w : Worker} {r : Except Failure Unit} {phase : LoopPhase}
    (h : w.Ends r phase) : phase.IsFree := by
  cases r with
  | ok u => exact Renews.isFree h
  | error e =>
    obtain ⟨due, rfl⟩ := h
    trivial

/-- The phase of a loop after the call that it has waited for. -/
def Concludes (o : Operation) (r : Option Outcome) (phase : LoopPhase) :
    Prop :=
  ((∃ o' due, phase = .reporting o' due) ∨ ∃ due, phase = .idle due)
    ∧ (o.status = .executing → ∃ due, phase = .reporting { o with
        status := (report r).status
        failureReason := (report r).reason } due)

end Worker

/-- The calls that a step of a loop makes, the worker after it, and the
phase that the loop comes to. -/
inductive LoopMove (w : Worker) :
    LoopPhase → List Event → Worker → LoopPhase → Prop where
  | begin {phase : LoopPhase} (h : w.Renews phase) :
    LoopMove w .spawned [] w phase
  | wake {due : Nat} {phase : LoopPhase} (h : w.Renews phase) :
    LoopMove w (.idle due) [] w phase
  | pollFailed {due due' : Nat} {e : Failure} :
    LoopMove w (.polling due) [.poll (.error e)] w (.idle due')
  | nothing {due due' : Nat} :
    LoopMove w (.polling due) [.poll (.ok none)] w (.idle due')
  | refuse {due due' : Nat} {o : Operation} (h : o.status ≠ .pending) :
    LoopMove w (.polling due) [.poll (.ok (some o))] w (.idle due')
  | reject {due due' : Nat} {o : Operation} {reason : String}
    (hc : Matching.convert? o w.table.supportedKinds = none) :
    LoopMove w (.polling due) [.poll (.ok (some o))] w (.rejecting
      { o with status := .failed, failureReason := some reason } due')
  | accept {due due' : Nat} {o : Operation} {t : TypedOperation}
    {h : Handler} (hd : Dispatched w.table o t h) :
    LoopMove w (.polling due) [.poll (.ok (some o))] w
      (.claiming { o with status := .executing } t h due')
  | rejected {due : Nat} {o : Operation} {phase : LoopPhase}
    {r : Except Failure Unit} (h : w.Ends r phase) :
    LoopMove w (.rejecting o due)
      [.status o.id o.status o.failureReason r] w phase
  | claimed {due : Nat} {o : Operation} {t : TypedOperation} {h : Handler} :
    LoopMove w (.claiming o t h due)
      [.status o.id o.status o.failureReason (.ok ())] (w.spawnCall h t)
      (.executing o w.calls.length)
  | unclaimed {due due' : Nat} {o : Operation} {t : TypedOperation}
    {h : Handler} {e : Failure} :
    LoopMove w (.claiming o t h due)
      [.status o.id o.status o.failureReason (.error e)] w (.idle due')
  | conclude {o : Operation} {n : Nat} {r : Option Outcome}
    {phase : LoopPhase}
    (hr : w.calls[n]?.bind HandlerCall.result? = some r)
    (h : Worker.Concludes o r phase) :
    LoopMove w (.executing o n) [] { w with inFlight := none } phase
  | reported {due : Nat} {o : Operation} {phase : LoopPhase}
    {r : Except Failure Unit} (h : w.Ends r phase) :
    LoopMove w (.reporting o due)
      [.status o.id o.status o.failureReason r] w phase

namespace Worker

variable {w w' : Worker} {i : Nat} {l : PollLoop}

lemma renews_nextCycle (s : Site σ) (w : Worker) :
    w.Renews (nextCycle p s w) := by
  rw [nextCycle]
  cases hr : w.running with
  | true => exact .inl ⟨hr, s.due p .poll, rfl⟩
  | false => exact .inr ⟨hr, rfl⟩

lemma gains_failCycle {new : List Event} (h : s.Gains new s') (w : Worker) :
    s.Gains new (failCycle s' w).1 := h.quiet rfl rfl

lemma ends_endCycle {new : List Event} (h : s.Gains new s') (w : Worker)
    (r : Except Failure Unit) : s.Gains new (endCycle p s' w r).1
      ∧ w.Ends r (endCycle p s' w r).2 := by
  cases r with
  | ok u => exact ⟨h, renews_nextCycle s' w⟩
  | error e => exact ⟨gains_failCycle h w, _, rfl⟩

/-- An operation that was handed out is refused, rejected or accepted. -/
lemma move_dispatch (due : Nat) {o : Operation}
    (h : s.Gains [.poll (.ok (some o))] s') (w : Worker) :
    s.Gains [.poll (.ok (some o))] (dispatch p s' w o).1
      ∧ LoopMove w (.polling due) [.poll (.ok (some o))] w
        (dispatch p s' w o).2 := by
  by_cases ho : o.status = .pending
  · cases hc : Matching.convert? o w.table.supportedKinds with
    | none =>
      have hcount : s.Gains [.poll (.ok (some o))]
          (s'.note (.counted (.operations .unsupported))) :=
        h.quiet rfl rfl
      obtain ⟨reason, due', hd⟩ := dispatch_pending_none p s' w ho hc
      rw [hd]
      exact ⟨hcount, .reject hc⟩
    | some t =>
      obtain ⟨owner, due', hown, hd⟩ := dispatch_pending_some p s' w ho hc
      rw [hd]
      refine ⟨h, .accept ⟨ho, ⟨t, hc, rfl⟩, ?_⟩⟩
      rw [TypedOperation.kind_claimed, hown]
  · rw [dispatch]
    cases hc : Matching.convert? o w.table.supportedKinds with
    | none =>
      rw [reject]
      dsimp only
      split
      · next hf =>
        obtain ⟨-, rfl⟩ := Operation.fail_eq_ok_iff.1 hf
        exact ⟨h.quiet rfl rfl, .reject hc⟩
      · exact ⟨gains_failCycle (h.quiet rfl rfl) w, .refuse ho⟩
    | some t =>
      obtain ⟨owner, hown⟩ := HandlerTable.exists_handlerFor?
        (Matching.kind_mem_of_convert? hc)
      simp only [hown, Operation.transitionTo_executing_of_ne ho]
      exact ⟨gains_failCycle h w, .refuse ho⟩

/-- What a call has come to is reported. -/
lemma concludes_conclude (s : Site σ) (w : Worker) (o : Operation)
    (r : Option Outcome) : s.Gains [] (conclude p s w o r).1
      ∧ Concludes o r (conclude p s w o r).2 := by
  have hcount : s.Gains []
      (s.note (.counted (.operations (report r).verdict))) :=
    (Site.Gains.refl s).quiet rfl rfl
  by_cases ho : o.status = .executing
  · obtain ⟨due, hc⟩ := conclude_executing p s w ho r
    rw [hc]
    exact ⟨hcount, .inl ⟨_, due, rfl⟩, fun _ => ⟨due, rfl⟩⟩
  · rw [conclude]
    split
    · exact ⟨hcount, .inl ⟨_, _, rfl⟩, fun h => absurd h ho⟩
    · exact ⟨gains_failCycle hcount w, .inr ⟨_, rfl⟩, fun h => absurd h ho⟩

/-- The step of a loop that is not to be cut off is one of the moves. -/
lemma runLoop_cases (h : runLoop p s w i l = some (s', w')) :
    ∃ new w₁ seen phase, LoopMove w l.phase new w₁ phase
      ∧ s.Gains new s'
      ∧ (seen = l.seen ∨ seen = w.signals ∧ w.Renews phase)
      ∧ w' = w₁.setLoop i { l with seen } phase := by
  cases hph : l.phase with
  | spawned =>
    simp only [runLoop, hph] at h
    cases h
    exact ⟨[], w, l.seen, _, .begin (renews_nextCycle s w), .refl s,
      .inl rfl, rfl⟩
  | polling due =>
    simp only [runLoop, hph] at h
    split at h
    · cases h
      have hpoll : s.Gains [.poll (s.poll p).1] (s.poll p).2 :=
        .call s _ rfl rfl
      match hr : (s.poll p).1 with
      | .ok (some o) =>
        rw [hr] at hpoll
        obtain ⟨hg, hm⟩ := move_dispatch (p := p) due hpoll w
        exact ⟨_, w, l.seen, _, hm, hg, .inl rfl, rfl⟩
      | .ok none =>
        rw [hr] at hpoll
        exact ⟨_, w, l.seen, _, .nothing, hpoll, .inl rfl, rfl⟩
      | .error e =>
        rw [hr] at hpoll
        exact ⟨_, w, l.seen, _, .pollFailed, gains_failCycle hpoll w,
          .inl rfl, rfl⟩
    · cases h
  | rejecting o due =>
    simp only [runLoop, hph] at h
    split at h
    · cases h
      have hwrite : s.Gains [.status o.id o.status o.failureReason
          (s.writeStatus p o).1] (s.writeStatus p o).2 :=
        .call s _ rfl rfl
      obtain ⟨hg, he⟩ := ends_endCycle (p := p) hwrite w (s.writeStatus p o).1
      exact ⟨_, w, l.seen, _, .rejected he, hg, .inl rfl, rfl⟩
    · cases h
  | claiming o t hd due =>
    simp only [runLoop, hph] at h
    split at h
    · have hwrite : s.Gains [.status o.id o.status o.failureReason
          (s.writeStatus p o).1] (s.writeStatus p o).2 :=
        .call s _ rfl rfl
      split at h
      · next heq =>
        cases h
        rw [heq] at hwrite
        exact ⟨_, w.spawnCall hd t, l.seen, _, .claimed, hwrite, .inl rfl,
          rfl⟩
      · next e heq =>
        cases h
        rw [heq] at hwrite
        exact ⟨_, w, l.seen, _, .unclaimed, gains_failCycle hwrite w,
          .inl rfl, rfl⟩
    · cases h
  | executing o n =>
    simp only [runLoop, hph] at h
    split at h
    · next r heq =>
      cases h
      obtain ⟨hg, hc⟩ := concludes_conclude (p := p) s
        { w with inFlight := none } o r
      exact ⟨_, { w with inFlight := none }, l.seen, _, .conclude heq hc, hg,
        .inl rfl, rfl⟩
    · cases h
  | reporting o due =>
    simp only [runLoop, hph] at h
    split at h
    · cases h
      have hwrite : s.Gains [.status o.id o.status o.failureReason
          (s.writeStatus p o).1] (s.writeStatus p o).2 :=
        .call s _ rfl rfl
      obtain ⟨hg, he⟩ := ends_endCycle (p := p) hwrite w (s.writeStatus p o).1
      exact ⟨_, w, l.seen, _, .reported he, hg, .inl rfl, rfl⟩
    · cases h
  | idle due =>
    simp only [runLoop, hph] at h
    split at h
    · cases h
      exact ⟨[], w, w.signals, _, .wake (renews_nextCycle s w), .refl s,
        .inr ⟨rfl, renews_nextCycle s w⟩, rfl⟩
    · cases h
  | exited =>
    simp only [runLoop, hph] at h
    cases h

/-- A loop that takes a step is cut off or makes one of the moves. -/
theorem stepLoop_cases (h : stepLoop p s w i = some (s', w')) :
    ∃ l, w.loops[i]? = some l ∧ l.phase ≠ .exited
      ∧ (l.aborted = true ∧ s' = s ∧ w' = w.setLoop i l .exited
        ∨ l.aborted = false ∧ ∃ new w₁ seen phase,
          LoopMove w l.phase new w₁ phase ∧ s.Gains new s'
            ∧ (seen = l.seen ∨ seen = w.signals ∧ w.Renews phase)
            ∧ w' = w₁.setLoop i { l with seen } phase) := by
  rw [stepLoop] at h
  split at h
  · next l hl =>
    split at h
    · cases h
    · next hover =>
      refine ⟨l, hl, by simpa [PollLoop.isOver] using hover, ?_⟩
      split at h
      · next ha =>
        cases h
        exact .inl ⟨ha, rfl, rfl⟩
      · next ha => exact .inr ⟨by simpa using ha, runLoop_cases h⟩
  · cases h

lemma gains_stepLoop (h : stepLoop p s w i = some (s', w')) :
    ∃ new, s.Gains new s' := by
  obtain ⟨l, -, -, hcases⟩ := stepLoop_cases h
  rcases hcases with ⟨-, rfl, -⟩ | ⟨-, new, w₁, seen, ph, -, hg, -⟩
  · exact ⟨[], .refl s'⟩
  · exact ⟨new, hg⟩

end Worker

/-! ### Steps of a call -/

/-- The calls that a step of a call of a handler enters, and the phase
that it comes to. -/
inductive CallMove (c : HandlerCall) : List Event → CallPhase → Prop where
  | cut (ha : c.aborted = true) (ho : c.isOver = false) :
    CallMove c [] (.ended none)
  | begin {due : Nat} {outcome : Outcome} (ha : c.aborted = false)
    (hc : c.phase = .spawned) :
    CallMove c [.execute c.handler c.operation] (.running due outcome)
  | finish {due : Nat} {outcome : Outcome} (ha : c.aborted = false)
    (hc : c.phase = .running due outcome) :
    CallMove c [] (.ended (some outcome))

lemma CallMove.isOver {c : HandlerCall} {new : List Event}
    {phase : CallPhase} (h : CallMove c new phase) : c.isOver = false := by
  cases h with
  | cut _ ho => exact ho
  | begin _ hc | finish _ hc =>
    rw [HandlerCall.isOver, HandlerCall.result?, hc]
    rfl

/-- A call that takes a step makes one of the moves. -/
theorem Worker.stepCall_cases {w w' : Worker} {i : Nat}
    (h : stepCall p s w i = some (s', w')) :
    ∃ c new phase, w.calls[i]? = some c ∧ CallMove c new phase
      ∧ s.Gains new s' ∧ w' = w.setCall i c phase := by
  rw [stepCall] at h
  split at h
  · next c hc =>
    refine ⟨c, ?_⟩
    split at h
    · cases h
    · next hover =>
      have ho : c.isOver = false := by simpa using hover
      split at h
      · next ha =>
        cases h
        exact ⟨_, _, hc, .cut ha ho, .refl s, rfl⟩
      · next ha =>
        have ha' : c.aborted = false := by simpa using ha
        split at h
        · next hph =>
          cases h
          exact ⟨_, _, hc, .begin ha' hph, .call s _ rfl rfl, rfl⟩
        · next due outcome hph =>
          split at h
          · cases h
            refine ⟨_, _, hc, .finish ha' hph, ?_, rfl⟩
            split
            · exact .refl s
            · exact (Site.Gains.refl s).quiet rfl rfl
          · cases h
        · cases h
  · cases h

lemma Worker.gains_stepCall {w w' : Worker} {i : Nat}
    (h : stepCall p s w i = some (s', w')) : ∃ new, s.Gains new s' := by
  obtain ⟨c, new, ph, -, -, hg, -⟩ := stepCall_cases h
  exact ⟨new, hg⟩

end RemoteOps
