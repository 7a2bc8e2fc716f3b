/-
How many loops of a worker are alive.

A stop and an abort store that the worker is stopped when they go on, not
when they were called, and a start looks at nothing else.  Two callers
may wait for the exit of one loop; if a loop is started after the first
of them went on, the second one reports the new loop as stopped.

* `HasOneLoop.move`: at most one loop is alive as long as every start
  finds that nobody waits any more;
* `twoLoops_of_lateStop`: when a start finds a stop that has not gone on
  yet, the worker may come to two live loops.
-/
import Mathlib.Logic.Relation
import RemoteOps.Proofs.Lists
import RemoteOps.Proofs.Worker.Moves

namespace RemoteOps

variable {σ : Type} {p : Platform σ} {site site' : Site σ}
  {w w' : Worker} {i : Nat}

/-! ### Steps and halts -/

namespace Worker

/-- The step of a loop replaces the phase of a loop. -/
lemma runLoop_eq_some {l : PollLoop}
    (h : runLoop p site w i l = some (site', w')) :
    ∃ (w₁ : Worker) (l' : PollLoop) (phase : LoopPhase),
      w' = w₁.setLoop i l' phase ∧ w₁.loops = w.loops
        ∧ w₁.state = w.state := by
  cases hph : l.phase with
  | spawned =>
    simp only [runLoop, hph] at h
    cases h
    exact ⟨w, l, _, rfl, rfl, rfl⟩
  | polling due =>
    simp only [runLoop, hph] at h
    split at h
    · cases h
      exact ⟨w, l, _, rfl, rfl, rfl⟩
    · cases h
  | rejecting o due =>
    simp only [runLoop, hph] at h
    split at h
    · cases h
      exact ⟨w, l, _, rfl, rfl, rfl⟩
    · cases h
  | claiming o t hd due =>
    simp only [runLoop, hph] at h
    split at h
    · split at h
      · cases h
        exact ⟨w.spawnCall hd t, l, _, rfl, rfl, rfl⟩
      · cases h
        exact ⟨w, l, _, rfl, rfl, rfl⟩
    · cases h
  | executing o n =>
    simp only [runLoop, hph] at h
    split at h
    · cases h
      exact ⟨{ w with inFlight := none }, l, _, rfl, rfl, rfl⟩
    · cases h
  | reporting o due =>
    simp only [runLoop, hph] at h
    split at h
    · cases h
      exact ⟨w, l, _, rfl, rfl, rfl⟩
    · cases h
  | idle due =>
    simp only [runLoop, hph] at h
    split at h
    · cases h
      exact ⟨w, { l with seen := w.signals }, _, rfl, rfl, rfl⟩
    · cases h
  | exited =>
    simp only [runLoop, hph] at h
    cases h

/-- The step of a loop replaces its phase, unless it has exited. -/
lemma stepLoop_phases (h : stepLoop p site w i = some (site', w')) :
    (∃ phase phase', w.phases[i]? = some phase ∧ phase ≠ .exited
      ∧ w'.phases = w.phases.set i phase') ∧ w'.state = w.state := by
  rw [stepLoop] at h
  split at h
  · next l hl =>
    have hget := phases_getElem? hl
    split at h
    · cases h
    · next hover =>
      have hne : l.phase ≠ .exited := by
        simpa [PollLoop.isOver] using hover
      split at h
      · cases h
        exact ⟨⟨l.phase, .exited, hget, hne, phases_setLoop ..⟩, rfl⟩
      · obtain ⟨w₁, l', phase, rfl, hloops, hstate⟩ := runLoop_eq_some h
        refine ⟨⟨l.phase, phase, hget, hne, ?_⟩, hstate⟩
        rw [phases_setLoop, phases, phases, hloops]
  · cases h

/-- The step of a call does not concern the loops. -/
lemma stepCall_phases (h : stepCall p site w i = some (site', w')) :
    w'.phases = w.phases ∧ w'.state = w.state := by
  rw [stepCall] at h
  split at h
  · split at h
    · cases h
    · split at h
      · cases h
        exact ⟨rfl, rfl⟩
      · split at h
        · cases h
          exact ⟨rfl, rfl⟩
        · split at h
          · cases h
            exact ⟨rfl, rfl⟩
          · cases h
        · cases h
  · cases h

/-- A loop of the worker that is gone has exited. -/
lemma phases_of_loopIsOver (h : w.loopIsOver i = true)
    (hi : i < w.phases.length) : w.phases[i]? = some .exited := by
  rw [phases, List.length_map] at hi
  rw [loopIsOver, List.getElem?_eq_getElem hi] at h
  rw [phases, List.getElem?_map, List.getElem?_eq_getElem hi]
  exact congrArg some (of_decide_eq_true h)

lemma state_destroy (w : Worker) : w.destroy.state = w.state := by
  rw [destroy]
  split <;> split <;> rfl

/-- The current loop is the last one, if there is any. -/
lemma current?_cases (w : Worker) :
    w.phases = [] ∧ w.current? = none
      ∨ ∃ i, w.current? = some i ∧ i + 1 = w.phases.length := by
  rw [current?, phases, List.length_map]
  cases hl : w.loops with
  | nil => exact .inl ⟨rfl, rfl⟩
  | cons l rest => exact .inr ⟨_, rfl, rfl⟩

lemma exists_of_not_loopIsOver (h : w.loopIsOver i = false) :
    ∃ phase, w.phases[i]? = some phase ∧ phase ≠ .exited := by
  rw [loopIsOver] at h
  cases hl : w.loops[i]? with
  | none => simp [hl] at h
  | some l =>
    refine ⟨l.phase, phases_getElem? hl, ?_⟩
    simpa [hl, PollLoop.isOver] using h

lemma loopIsOver_of_forall_exited (h : ∀ ph ∈ w.phases, ph = .exited)
    (i : Nat) : w.loopIsOver i = true := by
  by_contra hno
  obtain ⟨ph, hph, hne⟩ := exists_of_not_loopIsOver (by simpa using hno)
  exact hne (h ph (List.mem_of_getElem? hph))

lemma callIsOver_of_forall_isOver (h : ∀ c ∈ w.calls, c.isOver = true)
    (i : Nat) : w.callIsOver i = true := by
  rw [callIsOver]
  cases hc : w.calls[i]? with
  | none => rfl
  | some c => exact h c (List.mem_of_getElem? hc)

/-- When an abort has seen the loop exit, it takes up the call in flight
or is done. -/
lemma abortInFlight_snd (w : Worker) :
    (∃ n, w.abortInFlight.2 = .abortingCall n)
      ∨ w.abortInFlight.2 = .returned := by
  rw [abortInFlight]
  split
  · exact .inl ⟨_, rfl⟩
  · exact .inr rfl

end Worker

/-! ### One loop at a time -/

/-- What a halt waits for is the end of the last loop, or comes after
it. -/
def Halt.AwaitsLast (phases : List LoopPhase) : Halt → Prop
  | .awaitingExit i | .abortingLoop i => i + 1 = phases.length
  | .abortingCall _ => ∀ phase ∈ phases, phase = .exited
  | .returned => True

/-- At most the last loop is alive; the worker counts as started then,
and every caller who still waits waits for that loop. -/
structure OneLoop (phases : List LoopPhase) (state : WorkerState)
    (callers : List Halt) : Prop where
  earlier : EarlierExited phases
  started : (∃ phase ∈ phases, phase ≠ .exited) → state = .started
  awaited : ∀ h ∈ callers, h.AwaitsLast phases

namespace OneLoop

variable {phases : List LoopPhase} {state : WorkerState}
  {callers : List Halt}

/-- When all loops have exited, the state does not matter. -/
lemma of_all (hall : ∀ phase ∈ phases, phase = .exited)
    (hawaited : ∀ h ∈ callers, h.AwaitsLast phases) :
    OneLoop phases state callers where
  earlier i hi := by
    rw [List.getElem?_eq_getElem (by omega), hall _ (List.getElem_mem _)]
  started h := by
    obtain ⟨phase, hphase, hne⟩ := h
    exact absurd (hall phase hphase) hne
  awaited := hawaited

variable (h : OneLoop phases state callers)

include h

/-- A caller goes on to something that it may wait for. -/
lemma setCaller {i : Nat} {c : Halt} (hc : c.AwaitsLast phases) :
    ∀ h ∈ callers.set i c, h.AwaitsLast phases :=
  forall_mem_set h.awaited hc i

/-- One more caller. -/
lemma addCaller {c : Halt} (hc : c.AwaitsLast phases) :
    OneLoop phases state (callers ++ [c]) :=
  { h with
    awaited := fun h' hmem => by
      rcases List.mem_append.1 hmem with hmem | hmem
      · exact h.awaited h' hmem
      · exact List.mem_singleton.1 hmem ▸ hc }

/-- The loop that is alive takes a step. -/
lemma setPhase {i : Nat} {phase : LoopPhase} (phase' : LoopPhase)
    (hi : phases[i]? = some phase) (hne : phase ≠ .exited) :
    OneLoop (phases.set i phase') state callers where
  earlier := h.earlier.set phase' hi hne
  started _ := h.started ⟨phase, List.mem_of_getElem? hi, hne⟩
  awaited c hc := by
    have hawait := h.awaited c hc
    cases c with
    | awaitingExit k | abortingLoop k =>
      show k + 1 = (phases.set i phase').length
      rw [List.length_set]
      exact hawait
    | abortingCall k =>
      exact absurd (hawait phase (List.mem_of_getElem? hi)) hne
    | returned => trivial

end OneLoop

/-- A caller goes on only when all loops have exited. -/
lemma OneLoop.resume {callers : List Halt} {c c' : Halt}
    (h : OneLoop w.phases w.state callers) (hc : c ∈ callers)
    (hr : w.resume c = some (w', c')) :
    (∀ phase ∈ w.phases, phase = .exited) ∧ c'.AwaitsLast w.phases := by
  have hawait := h.awaited c hc
  have hall : ∀ k, w.loopIsOver k = true → k + 1 = w.phases.length →
      ∀ phase ∈ w.phases, phase = .exited := fun k hover hlast =>
    h.earlier.all hlast (Worker.phases_of_loopIsOver hover (by omega))
  cases Worker.resume_cases hr with
  | @stopped k hover | @nothing k hover =>
    exact ⟨hall k hover hawait, trivial⟩
  | @cut k n hover =>
    exact ⟨hall k hover hawait, hall k hover hawait⟩
  | gone => exact ⟨hawait, trivial⟩

namespace WorkerSystem

/-- Nobody waits for the worker. -/
def NobodyWaits (s : WorkerSystem σ) : Prop :=
  ∀ h ∈ s.callers, h = .returned

/-- At most one loop is alive. -/
def HasOneLoop (s : WorkerSystem σ) : Prop :=
  OneLoop s.worker.phases s.worker.state s.callers

variable {s s' : WorkerSystem σ}

lemma hasOneLoop_stepTask {t : WorkerTask} (hs : step p s t = some s')
    (h : s.HasOneLoop) : s'.HasOneLoop := by
  rw [HasOneLoop] at h ⊢
  cases step_cases hs with
  | loop hl =>
    obtain ⟨⟨phase, phase', hi, hne, hphases⟩, hstate⟩ :=
      Worker.stepLoop_phases hl
    dsimp only
    rw [hphases, hstate]
    exact h.setPhase phase' hi hne
  | call hc =>
    obtain ⟨hphases, hstate⟩ := Worker.stepCall_phases hc
    dsimp only
    rw [hphases, hstate]
    exact h
  | caller hc hr =>
    obtain ⟨hall, hc'⟩ := h.resume (List.mem_of_getElem? hc) hr
    dsimp only
    rw [(Worker.SameTasks.resume hr).phases]
    exact .of_all hall (h.setCaller hc')
  | destroy =>
    dsimp only
    rw [(Worker.SameTasks.destroy _).phases, Worker.state_destroy]
    exact h

lemma hasOneLoop_stop (h : s.HasOneLoop) : s.stop.HasOneLoop := by
  rw [HasOneLoop] at h ⊢
  show OneLoop s.worker.beginStop.1.phases s.worker.beginStop.1.state
    (s.callers ++ [s.worker.beginStop.2])
  rw [(Worker.SameTasks.beginStop _).phases, Worker.beginStop]
  rcases s.worker.current?_cases with ⟨-, hnone⟩ | ⟨i, hsome, hlast⟩
  · have hcur : Worker.current? { s.worker with
        running := false, signals := s.worker.signals + 1 } = none := hnone
    rw [hcur]
    exact h.addCaller trivial
  · have hcur : Worker.current? { s.worker with
        running := false, signals := s.worker.signals + 1 } = some i := hsome
    rw [hcur]
    exact h.addCaller hlast

lemma hasOneLoop_abort (h : s.HasOneLoop) : s.abort.HasOneLoop := by
  rw [HasOneLoop] at h ⊢
  show OneLoop s.worker.beginAbort.1.phases s.worker.beginAbort.1.state
    (s.callers ++ [s.worker.beginAbort.2])
  rw [(Worker.SameTasks.beginAbort _).phases, Worker.beginAbort]
  rcases s.worker.current?_cases with ⟨hnil, hnone⟩ | ⟨i, hsome, hlast⟩
  · have hcur : Worker.current? { s.worker with running := false }
        = none := hnone
    rw [hcur, hnil]
    rw [hnil] at h
    have hall : ∀ phase ∈ ([] : List LoopPhase), phase = .exited :=
      fun phase hphase => by cases hphase
    refine .of_all hall (h.addCaller (c := _) ?_).awaited
    rcases Worker.abortInFlight_snd { s.worker with running := false }
      with ⟨n, hn⟩ | hn
    · rw [hn]
      exact hall
    · rw [hn]
      trivial
  · have hcur : Worker.current? { s.worker with running := false }
        = some i := hsome
    rw [hcur]
    exact h.addCaller hlast

lemma hasOneLoop_start (hm : s.NobodyWaits) (hs : s.start? = some s')
    (h : s.HasOneLoop) : s'.HasOneLoop := by
  rw [HasOneLoop] at h ⊢
  obtain ⟨w', hw, rfl⟩ := Option.map_eq_some_iff.1 hs
  obtain ⟨hstate, hw'⟩ := Worker.start?_eq_some hw
  have hphases := (Worker.tasks_start? hw).2.1
  have hall : ∀ phase ∈ s.worker.phases, phase = .exited := by
    intro phase hphase
    by_contra hne
    exact hstate (h.started ⟨phase, hphase, hne⟩)
  dsimp only
  rw [hphases, hw']
  exact {
    earlier := earlierExited_append hall .spawned
    started := fun _ => rfl
    awaited := fun c hc => by
      rw [hm c hc]
      trivial }

/-- All moves keep that at most one loop is alive, if a start finds that
nobody waits any more. -/
theorem HasOneLoop.move (hm : Move p NobodyWaits s s') (h : s.HasOneLoop) :
    s'.HasOneLoop := by
  cases hm with
  | step hs =>
    cases hs with
    | run t ht => exact hasOneLoop_stepTask ht h
    | wait => exact h
  | start hm hs => exact hasOneLoop_start hm hs h
  | stop => exact hasOneLoop_stop h
  | abort => exact hasOneLoop_abort h
  | release | clock => exact h

/-! ### Whole runs -/

lemma hasOneLoop_new (site : Site σ) (table : HandlerTable)
    (interval : Span) :
    HasOneLoop { site, worker := .new table interval } :=
  .of_all (fun _ h => by cases h) (fun _ h => by cases h)

lemma hasOneLoop_of_moves {site : Site σ} {table : HandlerTable}
    {interval : Span} (h : Relation.ReflTransGen (Move p NobodyWaits)
      { site, worker := .new table interval } s) : s.HasOneLoop := by
  induction h with
  | refl => exact hasOneLoop_new site table interval
  | tail _ hm ih => exact ih.move hm

/-- In a run in which every start finds that nobody waits any more, at
most one loop is alive at any time, and no start is accepted beside
it. -/
theorem single_of_moves {site : Site σ} {table : HandlerTable}
    {interval : Span} (h : Relation.ReflTransGen (Move p NobodyWaits)
      { site, worker := .new table interval } s)
    {i : Nat} (hi : s.worker.loopIsOver i = false) :
    (∀ k, s.worker.loopIsOver k = false → k = i) ∧ s.start? = none := by
  have hone := hasOneLoop_of_moves h
  obtain ⟨phase, hphase, hne⟩ := Worker.exists_of_not_loopIsOver hi
  refine ⟨fun k hk => ?_, ?_⟩
  · by_contra hki
    obtain ⟨phase', hphase', hne'⟩ := Worker.exists_of_not_loopIsOver hk
    exact hne' (hone.earlier.exited_of_ne hphase hne hphase' hki)
  · have hstate := hone.started ⟨phase, List.mem_of_getElem? hphase, hne⟩
    rw [start?, Worker.start?, Worker.isStarted, hstate]
    rfl

/-! ### A stop that goes on late -/

/-- Two loops of the worker are alive. -/
def HasTwoLoops (s : WorkerSystem σ) : Prop :=
  ∃ i j, i ≠ j ∧ s.worker.loopIsOver i = false
    ∧ s.worker.loopIsOver j = false

/-- A start that finds a stop which has not gone on yet may be followed by
a second one: the stop reports the new loop as stopped. -/
theorem twoLoops_of_lateStop {s₁ : WorkerSystem σ} (h : s.HasOneLoop)
    (hs : s.start? = some s₁) {n k : Nat}
    (hn : s.callers[n]? = some (.awaitingExit k)) :
    ∃ s₂, Relation.ReflTransGen (Move p fun _ => True) s₁ s₂
      ∧ s₂.HasTwoLoops := by
  obtain ⟨w₁, hw₁, rfl⟩ := Option.map_eq_some_iff.1 hs
  obtain ⟨hstate, rfl⟩ := Worker.start?_eq_some hw₁
  set w := s.worker with hw
  have hlast : k + 1 = w.phases.length :=
    h.awaited _ (List.mem_of_getElem? hn)
  have hk : k < w.loops.length := by
    rw [Worker.phases, List.length_map] at hlast
    omega
  have hexited : w.phases[k]? = some .exited := by
    by_contra hne
    have hget := List.getElem?_eq_getElem (l := w.phases) (i := k) (by omega)
    exact hstate (h.started ⟨w.phases[k], List.getElem_mem _, fun he =>
      hne (he ▸ hget)⟩)
  -- the stop goes on
  set l₁ : PollLoop := { seen := w.signals + 1 } with hl₁
  set w₁ : Worker := { w with
    running := true
    signals := w.signals + 1
    loops := w.loops ++ [l₁]
    state := .started } with hw₁'
  have hover : w₁.loopIsOver k = true := by
    rw [Worker.phases, List.getElem?_map] at hexited
    obtain ⟨l, hl, hphase⟩ := Option.map_eq_some_iff.1 hexited
    show (w.loops ++ [l₁])[k]?.all PollLoop.isOver = true
    rw [List.getElem?_append_left hk, hl]
    exact decide_eq_true hphase
  set s₂ : WorkerSystem σ := { s with
    site := noteReturn s.site n .returned
    worker := { w₁ with state := .stopped }
    callers := s.callers.set n .returned } with hs₂
  have hstep : (machine p).Step { s with worker := w₁ } s₂ := by
    have hresume : w₁.resume (.awaitingExit k)
        = some ({ w₁ with state := .stopped }, .returned) := if_pos hover
    exact .run (.caller n) (Option.bind_eq_some_iff.2
      ⟨_, hn, Option.bind_eq_some_iff.2 ⟨_, hresume, rfl⟩⟩)
  -- and the worker may be started again
  obtain ⟨s₃, hs₃, hloops⟩ : ∃ s₃, s₂.start? = some s₃
      ∧ s₃.worker.loops = (w.loops ++ [l₁]) ++ [{ seen := w.signals + 2 }] :=
    ⟨_, rfl, rfl⟩
  refine ⟨s₃, (Relation.ReflTransGen.single (.step hstep)).tail
    (.start trivial hs₃), w.loops.length, w.loops.length + 1, by omega,
    ?_, ?_⟩
  · rw [Worker.loopIsOver, hloops, List.append_assoc,
      List.getElem?_append_right (Nat.le_refl _), Nat.sub_self]
    rfl
  · have hle : w.loops.length ≤ w.loops.length + 1 := by omega
    rw [Worker.loopIsOver, hloops, List.append_assoc,
      List.getElem?_append_right hle, Nat.add_sub_cancel_left]
    rfl

/-- Every worker may come to two live loops: it is started and stopped
twice at once, and started again when the first stop has returned and
the second one has not. -/
theorem exists_twoLoops (p : Platform σ) (site : Site σ)
    (table : HandlerTable) (interval : Span) :
    ∃ s, Relation.ReflTransGen (Move p fun _ => True)
        { site, worker := .new table interval } s
      ∧ s.HasTwoLoops := by
  set s₀ : WorkerSystem σ := { site, worker := .new table interval }
    with hs₀
  obtain ⟨s₁, s₂, s₃, s₄, h₁, h₂, h₃, h₄, hwaits⟩ : ∃ s₁ s₂ s₃ s₄,
      s₀.start? = some s₁ ∧ step p s₁.stop.stop (.loop 0) = some s₂
        ∧ step p s₂ (.caller 0) = some s₃ ∧ s₃.start? = some s₄
        ∧ s₃.callers[1]? = some (.awaitingExit 0) :=
    ⟨_, _, _, _, rfl, rfl, rfl, rfl, rfl⟩
  have hrun : Relation.ReflTransGen (Move p NobodyWaits) s₀ s₃ := by
    have hstart : Move p NobodyWaits s₀ s₁ :=
      .start (fun c hc => by cases hc) h₁
    have hexit : Move p NobodyWaits s₁.stop.stop s₂ :=
      .step (.run (.loop 0) h₂)
    have hgo : Move p NobodyWaits s₂ s₃ := .step (.run (.caller 0) h₃)
    exact ((((Relation.ReflTransGen.single hstart).tail (.stop _)).tail
      (.stop _)).tail hexit).tail hgo
  obtain ⟨s, hlate, htwo⟩ :=
    twoLoops_of_lateStop (hasOneLoop_of_moves hrun) h₄ hwaits
  have hany : Relation.ReflTransGen (Move p fun _ => True) s₀ s₃ :=
    hrun.lift id fun _ _ hm => hm.mono fun _ _ => trivial
  exact ⟨s, (hany.tail (.start trivial h₄)).trans hlate, htwo⟩

end WorkerSystem

end RemoteOps
