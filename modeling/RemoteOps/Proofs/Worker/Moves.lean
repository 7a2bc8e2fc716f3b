/-
The moves of a worker and of those who call it.

A caller may start, stop or abort the worker at any time; between these
calls the tasks take their steps in any order.  When a start may be
called is left to a condition on the state.

* `EarlierExited`: all loops but the last one have exited;
* `Worker.HaltMove`, `Worker.resume_cases`: how a caller goes on who waits;
* `Worker.SameTasks`: what callers do leaves every loop and every call of
  a handler where it is;
* `WorkerSystem.TaskMove`, `WorkerSystem.step_cases`: what comes of a step
  of a task;
* `WorkerSystem.Move.keeps`: to see that all moves keep a property of
  site and worker, it is enough to look at the steps of loops and of
  calls, at a start, and at what callers and the clock cannot change.
-/
import Mathlib.Data.List.Basic
import RemoteOps.Worker.System

namespace RemoteOps

/-- A call of a handler, whether or not it is to be cut off. -/
def HandlerCall.core (c : HandlerCall) : HandlerCall :=
  { c with aborted := false }

/-! ### Loops that have exited -/

/-- All loops but the last one have exited. -/
def EarlierExited (phases : List LoopPhase) : Prop :=
  ∀ i, i + 1 < phases.length → phases[i]? = some .exited

namespace EarlierExited

variable {phases : List LoopPhase} (h : EarlierExited phases)

include h

/-- While one loop goes on, all others have exited. -/
lemma exited_of_ne {i k : Nat} {phase phase' : LoopPhase}
    (hi : phases[i]? = some phase) (hne : phase ≠ .exited)
    (hk : phases[k]? = some phase') (hik : k ≠ i) : phase' = .exited := by
  obtain ⟨hi', -⟩ := List.getElem?_eq_some_iff.1 hi
  obtain ⟨hk', -⟩ := List.getElem?_eq_some_iff.1 hk
  have hlast : ¬ i + 1 < phases.length := by
    intro hlt
    rw [h i hlt, Option.some.injEq] at hi
    exact hne hi.symm
  have hlt : k + 1 < phases.length := by omega
  rw [h k hlt, Option.some.injEq] at hk
  exact hk.symm

/-- The phase of the loop that goes on may be replaced. -/
lemma set {i : Nat} {phase : LoopPhase} (phase' : LoopPhase)
    (hi : phases[i]? = some phase) (hne : phase ≠ .exited) :
    EarlierExited (phases.set i phase') := by
  intro k hk
  rw [List.length_set] at hk
  have hki : i ≠ k := by
    rintro rfl
    rw [h i hk, Option.some.injEq] at hi
    exact hne hi.symm
  rw [List.getElem?_set_ne hki, h k hk]

/-- If the last loop has exited, all have. -/
lemma all {i : Nat} (hlast : i + 1 = phases.length)
    (hi : phases[i]? = some .exited) : ∀ phase ∈ phases, phase = .exited := by
  intro phase hphase
  obtain ⟨k, hk⟩ := List.mem_iff_getElem?.1 hphase
  obtain ⟨hlt, -⟩ := List.getElem?_eq_some_iff.1 hk
  by_cases hki : k = i
  · rw [hki, hi, Option.some.injEq] at hk
    exact hk.symm
  · rw [h k (by omega), Option.some.injEq] at hk
    exact hk.symm

end EarlierExited

/-- A loop may be added when all have exited. -/
lemma earlierExited_append {phases : List LoopPhase}
    (hall : ∀ phase ∈ phases, phase = .exited) (phase : LoopPhase) :
    EarlierExited (phases ++ [phase]) := by
  intro i hi
  rw [List.length_append, List.length_singleton] at hi
  have hlt : i < phases.length := by omega
  rw [List.getElem?_append_left hlt, List.getElem?_eq_getElem hlt,
    hall _ (List.getElem_mem hlt)]

namespace Worker

/-- What the loops are doing. -/
def phases (w : Worker) : List LoopPhase := w.loops.map (·.phase)

/-- The calls of handlers, whether or not they are to be cut off. -/
def cores (w : Worker) : List HandlerCall := w.calls.map HandlerCall.core

@[simp]
lemma phases_new (table : HandlerTable) (interval : Span) :
    (new table interval).phases = [] := rfl

@[simp]
lemma cores_new (table : HandlerTable) (interval : Span) :
    (new table interval).cores = [] := rfl

section Tasks

variable {w w' : Worker} {i : Nat} {l : PollLoop} {c : HandlerCall}

lemma phases_setLoop (w : Worker) (i : Nat) (l : PollLoop)
    (phase : LoopPhase) :
    (w.setLoop i l phase).phases = w.phases.set i phase :=
  List.map_set

lemma phases_getElem? (h : w.loops[i]? = some l) :
    w.phases[i]? = some l.phase := by
  rw [phases, List.getElem?_map, h, Option.map_some]

lemma cores_spawnCall (w : Worker) (h : Handler) (t : TypedOperation) :
    (w.spawnCall h t).cores
      = w.cores ++ [{ handler := h, operation := t }] := by
  rw [cores, spawnCall, List.map_append]
  rfl

lemma cores_setCall (w : Worker) (i : Nat) (c : HandlerCall)
    (phase : CallPhase) :
    (w.setCall i c phase).cores = w.cores.set i { c.core with phase } :=
  List.map_set

lemma cores_getElem? (h : w.calls[i]? = some c) :
    w.cores[i]? = some c.core := by
  rw [cores, List.getElem?_map, h, Option.map_some]

lemma length_cores (w : Worker) : w.cores.length = w.calls.length :=
  List.length_map _

end Tasks

/-- The tasks of two workers are equally far. -/
structure SameTasks (w w' : Worker) : Prop where
  table : w'.table = w.table
  interval : w'.interval = w.interval
  phases : w'.phases = w.phases
  cores : w'.cores = w.cores

/-! ### What callers do -/

/-- How a caller goes on, when what it waits for is gone. -/
inductive HaltMove (w : Worker) : Halt → Worker → Halt → Prop where
  | stopped {i : Nat} (h : w.loopIsOver i = true) :
    HaltMove w (.awaitingExit i) { w with state := .stopped } .returned
  | nothing {i : Nat} (h : w.loopIsOver i = true) (hf : w.inFlight = none) :
    HaltMove w (.abortingLoop i) { w with state := .stopped } .returned
  | cut {i n : Nat} (h : w.loopIsOver i = true)
    (hf : w.inFlight = some n) :
    HaltMove w (.abortingLoop i)
      (({ w with inFlight := none } : Worker).abortCall n) (.abortingCall n)
  | gone {n : Nat} (h : w.callIsOver n = true) :
    HaltMove w (.abortingCall n) { w with state := .stopped } .returned

theorem resume_cases {w w' : Worker} {h h' : Halt}
    (hr : w.resume h = some (w', h')) : HaltMove w h w' h' := by
  cases h with
  | returned => cases hr
  | awaitingExit i =>
    simp only [resume] at hr
    split at hr
    · next hover =>
      cases hr
      exact .stopped hover
    · cases hr
  | abortingLoop i =>
    simp only [resume] at hr
    split at hr
    · next hover =>
      rw [abortInFlight] at hr
      split at hr
      · next n hf =>
        cases hr
        exact .cut hover hf
      · next hf =>
        cases hr
        exact .nothing hover hf
    · cases hr
  | abortingCall n =>
    simp only [resume] at hr
    split at hr
    · next hover =>
      cases hr
      exact .gone hover
    · cases hr

namespace SameTasks

lemma trans {w w' w'' : Worker} (h : SameTasks w w')
    (h' : SameTasks w' w'') : SameTasks w w'' :=
  ⟨h'.table.trans h.table, h'.interval.trans h.interval,
    h'.phases.trans h.phases, h'.cores.trans h.cores⟩

lemma abortLoop (w : Worker) (i : Nat) : SameTasks w (w.abortLoop i) := by
  refine ⟨rfl, rfl, ?_, rfl⟩
  refine List.ext_getElem? fun k => ?_
  simp only [Worker.phases, Worker.abortLoop, List.getElem?_map,
    List.getElem?_modify]
  by_cases h : i = k <;> simp [h, Function.comp_def]

lemma abortCall (w : Worker) (i : Nat) : SameTasks w (w.abortCall i) := by
  refine ⟨rfl, rfl, rfl, ?_⟩
  refine List.ext_getElem? fun k => ?_
  simp only [Worker.cores, Worker.abortCall, List.getElem?_map,
    List.getElem?_modify]
  by_cases h : i = k
  · subst h
    cases w.calls[i]? <;> simp [HandlerCall.core]
  · simp [h]

lemma beginStop (w : Worker) : SameTasks w w.beginStop.1 := by
  rw [Worker.beginStop]
  split <;> exact ⟨rfl, rfl, rfl, rfl⟩

lemma abortInFlight (w : Worker) : SameTasks w w.abortInFlight.1 := by
  rw [Worker.abortInFlight]
  split
  · next i _ =>
    have h : SameTasks w { w with inFlight := none } :=
      ⟨rfl, rfl, rfl, rfl⟩
    exact h.trans (abortCall _ i)
  · exact ⟨rfl, rfl, rfl, rfl⟩

lemma beginAbort (w : Worker) : SameTasks w w.beginAbort.1 := by
  rw [Worker.beginAbort]
  have h : SameTasks w { w with running := false } := ⟨rfl, rfl, rfl, rfl⟩
  split
  · exact h.trans (abortLoop _ _)
  · exact h.trans (abortInFlight _)

lemma resume {w w' : Worker} {h h' : Halt}
    (hr : w.resume h = some (w', h')) : SameTasks w w' := by
  cases resume_cases hr with
  | stopped | nothing | gone => exact ⟨rfl, rfl, rfl, rfl⟩
  | @cut i n =>
    have hclear : SameTasks w { w with inFlight := none } :=
      ⟨rfl, rfl, rfl, rfl⟩
    exact hclear.trans (abortCall _ n)

lemma destroy (w : Worker) : SameTasks w w.destroy := by
  have h₁ : SameTasks w { w with running := false } := ⟨rfl, rfl, rfl, rfl⟩
  have hcut : ∀ (w₂ : Worker) (i : Nat),
      SameTasks w₂ (({ w₂ with inFlight := none }).abortCall i) := by
    intro w₂ i
    have hclear : SameTasks w₂ { w₂ with inFlight := none } :=
      ⟨rfl, rfl, rfl, rfl⟩
    exact hclear.trans (abortCall _ i)
  cases hc : current? { w with running := false } with
  | none =>
    simp only [Worker.destroy, hc]
    split
    · exact h₁.trans (hcut _ _)
    · exact h₁
  | some i =>
    have h₂ := h₁.trans (abortLoop _ i)
    simp only [Worker.destroy, hc]
    split
    · exact h₂.trans (hcut _ _)
    · exact h₂

end SameTasks

/-- A start adds one loop. -/
lemma start?_eq_some {w w' : Worker} (h : w.start? = some w') :
    w.state ≠ .started ∧ w' = { w with
      running := true
      signals := w.signals + 1
      loops := w.loops ++ [{ seen := w.signals + 1 }]
      state := .started } := by
  rw [start?] at h
  split at h
  · cases h
  · next hs =>
    refine ⟨?_, (Option.some.inj h).symm⟩
    simpa [isStarted] using hs

/-- A start adds one loop and nothing else. -/
lemma tasks_start? {w w' : Worker} (h : w.start? = some w') :
    w'.table = w.table ∧ w'.phases = w.phases ++ [.spawned]
      ∧ w'.cores = w.cores := by
  obtain ⟨-, rfl⟩ := start?_eq_some h
  exact ⟨rfl, List.map_append, rfl⟩

end Worker

/-! ### Moves -/

namespace WorkerSystem

variable {σ : Type} (p : Platform σ)

/-- What comes of a step of a task. -/
inductive TaskMove (s : WorkerSystem σ) : WorkerSystem σ → Prop where
  | loop {i : Nat} {site : Site σ} {w : Worker}
    (h : Worker.stepLoop p s.site s.worker i = some (site, w)) :
    TaskMove s { s with site, worker := w }
  | call {i : Nat} {site : Site σ} {w : Worker}
    (h : Worker.stepCall p s.site s.worker i = some (site, w)) :
    TaskMove s { s with site, worker := w }
  | caller {i : Nat} {c c' : Halt} {w : Worker}
    (hc : s.callers[i]? = some c) (h : s.worker.resume c = some (w, c')) :
    TaskMove s { s with
      site := noteReturn s.site i c'
      worker := w
      callers := s.callers.set i c' }
  | destroy (hr : s.released = true) :
    TaskMove s { s with worker := s.worker.destroy, destroyed := true }

variable {p} in
theorem step_cases {s s' : WorkerSystem σ} {t : WorkerTask}
    (h : step p s t = some s') : TaskMove p s s' := by
  cases t with
  | loop i =>
    obtain ⟨⟨site, w⟩, hl, rfl⟩ := Option.map_eq_some_iff.1 h
    exact .loop hl
  | call i =>
    obtain ⟨⟨site, w⟩, hc, rfl⟩ := Option.map_eq_some_iff.1 h
    exact .call hc
  | caller i =>
    obtain ⟨c, hc, hrest⟩ := Option.bind_eq_some_iff.1 h
    obtain ⟨⟨w, c'⟩, hw, hs'⟩ := Option.bind_eq_some_iff.1 hrest
    obtain rfl := Option.some.inj hs'
    exact .caller hc hw
  | destroy =>
    change (if s.isAbandoned then _ else _) = some s' at h
    split at h
    · next hab =>
      obtain rfl := Option.some.inj h
      simp only [isAbandoned, Bool.and_eq_true] at hab
      exact .destroy hab.1.1
    · cases h

/-- The clock shows a time. -/
def setNow (s : WorkerSystem σ) (now : Nat) : WorkerSystem σ :=
  { s with site := { s.site with now } }

/-- What can happen next to a worker with its callers.  The clock moves on
in any way, and a start that is refused changes nothing and is no move. -/
inductive Move (mayStart : WorkerSystem σ → Prop) :
    WorkerSystem σ → WorkerSystem σ → Prop where
  | step {s s' : WorkerSystem σ} (h : (machine p).Step s s') :
    Move mayStart s s'
  | start {s s' : WorkerSystem σ} (hm : mayStart s)
    (h : s.start? = some s') : Move mayStart s s'
  | stop (s : WorkerSystem σ) : Move mayStart s s.stop
  | abort (s : WorkerSystem σ) : Move mayStart s s.abort
  | release (s : WorkerSystem σ) : Move mayStart s s.release
  | clock (s : WorkerSystem σ) (now : Nat) : Move mayStart s (s.setNow now)

/-- A weaker condition on starts allows more moves. -/
lemma Move.mono {p : Platform σ} {mayStart mayStart' : WorkerSystem σ → Prop}
    (h : ∀ s, mayStart s → mayStart' s) {s s' : WorkerSystem σ}
    (hm : Move p mayStart s s') : Move p mayStart' s s' := by
  cases hm with
  | step hs => exact .step hs
  | start hm hs => exact .start (h _ hm) hs
  | stop => exact .stop s
  | abort => exact .abort s
  | release => exact .release s
  | clock now => exact .clock s now

/-- A site where at most the return of a caller was entered. -/
def AtMostReturned (s s' : Site σ) : Prop :=
  s' = s ∨ ∃ n, s' = s.note (.returned n)

lemma atMostReturned_noteReturn (s : Site σ) (i : Nat) (h : Halt) :
    AtMostReturned s (noteReturn s i h) := by
  rw [noteReturn]
  split
  · exact .inr ⟨i, rfl⟩
  · exact .inl rfl

variable {p} {mayStart : WorkerSystem σ → Prop}

/-- A property of site and worker is kept by all moves if it is kept by
the steps of loops and calls, by a start, by the clock, and by whatever
enters at most the return of a caller and leaves all tasks where they
are. -/
theorem Move.keeps {P : Site σ → Worker → Prop}
    (caller : ∀ {s s' : Site σ} {w w' : Worker}, AtMostReturned s s' →
      w.SameTasks w' → P s w → P s' w')
    (clock : ∀ {s : Site σ} {w : Worker} (now : Nat), P s w →
      P { s with now } w)
    (start : ∀ {s : WorkerSystem σ} {w' : Worker}, mayStart s →
      s.worker.start? = some w' → P s.site s.worker → P s.site w')
    (loop : ∀ {s s' : Site σ} {w w' : Worker} {i : Nat},
      Worker.stepLoop p s w i = some (s', w') → P s w → P s' w')
    (call : ∀ {s s' : Site σ} {w w' : Worker} {i : Nat},
      Worker.stepCall p s w i = some (s', w') → P s w → P s' w')
    {s s' : WorkerSystem σ} (hm : Move p mayStart s s')
    (h : P s.site s.worker) : P s'.site s'.worker := by
  cases hm with
  | step hs =>
    cases hs with
    | run t ht =>
      cases step_cases ht with
      | loop hl => exact loop hl h
      | call hc => exact call hc h
      | caller _ hr =>
        exact caller (atMostReturned_noteReturn _ _ _) (.resume hr) h
      | destroy => exact caller (.inl rfl) (.destroy _) h
    | wait => exact clock _ h
  | start hmay hs =>
    obtain ⟨w', hw, rfl⟩ := Option.map_eq_some_iff.1 hs
    have hs' : P s.site w' := start hmay hw h
    exact hs'
  | stop =>
    exact caller (atMostReturned_noteReturn _ _ _) (.beginStop _) h
  | abort =>
    exact caller (atMostReturned_noteReturn _ _ _) (.beginAbort _) h
  | release => exact h
  | clock => exact clock _ h

end WorkerSystem

end RemoteOps
