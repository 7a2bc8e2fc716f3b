/-
How taking a service down ends.

A stop waits for the worker and then for the handlers, each time until a
deadline at most, so that it returns whatever the tasks do.  It fails only
if a handler is still at work at the end of the short time that it has
after it was cut off; if the stops of all handlers can be cut off, none is.

* `Service.IsCutShort`: no stop of a handler goes on that was cut off;
* `Shutdown.Yields`, `GroupsMove.yields`: whoever waits for such handlers
  succeeds;
* `ServiceSystem.Stopping`, `ServiceSystem.Driven.stopping`: every stop
  goes on or has succeeded;
* `ServiceSystem.work`, `ServiceSystem.Halting.work_lt`: while a stop goes
  on, every step leaves less to do;
* `ServiceSystem.Stopping.inevitable`: every stop succeeds;
* `ServiceSystem.Succeeds`, `ServiceSystem.stops_of_driven`: what is known
  of the stops of every run.
-/
import RemoteOps.Proofs.Service.Provision
import RemoteOps.Proofs.Service.Runs
import RemoteOps.Proofs.Worker.Drain

namespace RemoteOps

variable {σ : Type} {p : Platform σ} {site site' : Site σ} {now i : Nat}
  {sv sv' : Service} {call : ServiceCall}

/-! ### Handlers that can be cut off -/

/-- No stop of a handler goes on that was cut off. -/
def Service.IsCutShort (sv : Service) : Prop :=
  ∀ d ∈ sv.shutdowns, ∀ t ∈ d.tasks, t.aborted = true → t.isOver = true

instance (sv : Service) : Decidable sv.IsCutShort :=
  inferInstanceAs (Decidable (∀ d ∈ sv.shutdowns, ∀ t ∈ d.tasks,
    t.aborted = true → t.isOver = true))

namespace Shutdown

variable {d d' : Shutdown}

/-- A group of handlers for which nobody waits in vain. -/
structure Yields (now : Nat) (d : Shutdown) : Prop where
  terminate : d.terminate = true
  /-- Those that are cut off are gone in time. -/
  inTime : ∀ deadline, d.phase = .terminating deadline →
    (∀ t ∈ d.tasks, t.aborted = true) ∧ (now < deadline ∨ d.remaining = 0)
  succeeds : ∀ r, d.result? = some r → r = .ok ()

lemma yields_begin {cs : List Component} {timeout : Span}
    (h : begin? now cs timeout true = .ok d) : d.Yields now := by
  obtain ⟨-, rfl⟩ := begin?_eq_ok h
  exact ⟨rfl, fun _ hp => (by cases hp), fun _ hr => by cases hr⟩

namespace Yields

lemma stepTask (h : d.Yields site.now)
    (hs : d.stepTask site i = some (site', d')) : d'.Yields site.now := by
  obtain ⟨t, es, phase, ht, -, -, hd⟩ := stepTask_cases hs
  rw [hd]
  refine ⟨h.terminate, fun deadline hp => ?_, h.succeeds⟩
  obtain ⟨hall, hlt | hover⟩ := h.inTime deadline hp
  · have ha : ({ t with phase } : StopTask).aborted = true :=
      hall t (List.mem_of_getElem? ht)
    exact ⟨forall_mem_set hall ha i, .inl hlt⟩
  · rw [stepTask_of_remaining hover] at hs
    cases hs

lemma stepWait (h : d.Yields now) (hs : d.stepWait now = some d') :
    d'.Yields now := by
  rw [Shutdown.stepWait] at hs
  split at hs
  · split at hs
    · cases hs
      exact ⟨h.terminate, fun _ hp => (by cases hp),
        fun r hr => (Option.some.inj hr).symm⟩
    · split at hs
      · rw [if_pos h.terminate] at hs
        cases hs
        refine ⟨h.terminate, fun deadline hp => ⟨fun t ht => ?_, .inl ?_⟩,
          fun _ hr => by cases hr⟩
        · obtain ⟨t₀, -, rfl⟩ := List.mem_map.1 ht
          rfl
        · cases hp
          exact Span.lt_deadline (by decide)
      · cases hs
  · next deadline hp =>
    split at hs
    · cases hs
      exact ⟨h.terminate, fun _ hp => (by cases hp),
        fun r hr => (Option.some.inj hr).symm⟩
    · next hrem =>
      split at hs
      · next hdue =>
        -- nobody is at work any more when the time is over
        rcases (h.inTime deadline hp).2 with hlt | hover
        · exact absurd hdue (Nat.not_le_of_gt hlt)
        · exact absurd hover hrem
      · cases hs
  · cases hs

/-- Time passes when those that were cut off are gone. -/
lemma clock (h : d.Yields now)
    (hcut : ∀ t ∈ d.tasks, t.aborted = true → t.isOver = true)
    (now' : Nat) : d.Yields now' where
  terminate := h.terminate
  inTime deadline hp := by
    have hall := (h.inTime deadline hp).1
    exact ⟨hall, .inr (remaining_eq_zero_iff.2 fun t ht =>
      hcut t ht (hall t ht))⟩
  succeeds := h.succeeds

end Yields

end Shutdown

lemma GroupsMove.yields {l l' : List Shutdown} (h : GroupsMove site l l')
    (hl : ∀ d ∈ l, d.Yields site.now) : ∀ d ∈ l', d.Yields site.now :=
  h.forall_mem (fun _ _ _ hd => Shutdown.yields_begin hd)
    (fun _ _ _ _ hd hs => hd.stepTask hs) (fun _ _ hd hs => hd.stepWait hs)
    hl

/-! ### Stops that go on -/

/-- A stop that goes on or has succeeded. -/
def ServiceCall.StopsWell (c : ServiceCall) : Prop :=
  (∃ t, c = .takedown t) ∨ c = .returned (.ok ())

lemma TakedownTurn.stopsWell (ht : TakedownTurn site sv sv' call)
    (hg : ∀ d ∈ sv.shutdowns, d.Yields now) : call.StopsWell := by
  rcases ht.result with hwaits | hok | ⟨k, e, hres, -⟩
  · exact .inl hwaits
  · exact .inr hok
  · obtain ⟨d, hd, hr⟩ := Option.bind_eq_some_iff.1 hres
    cases (hg d (List.mem_of_getElem? hd)).succeeds _ hr

namespace ServiceSystem

variable {s s' : ServiceSystem σ} {mayPass : Service → Prop}
  {stops : List Nat}

/-- What a step does to the groups of handlers. -/
lemma groups_of_move (h : Ordered s.service s.callers)
    (hm : ServiceMove p s s') :
    GroupsMove s.site s.service.shutdowns s'.service.shutdowns := by
  cases hm with
  | loop | call => exact .same
  | stop hd hs => exact .task hd hs
  | wait hd hs => exact .wait hd hs
  | @caller i c c' hc hs =>
    cases c with
    | startup u =>
      obtain ⟨es, -, hm⟩ := Startup.step_cases hs
      exact hm.turn.groups
    | takedown t =>
      obtain ⟨-, hm⟩ := Takedown.step_cases hs
      exact (hm.turn (h.calls _ (List.mem_of_getElem? hc)) h.valid).groups
    | returned | unwound => cases hs

/-- Some calls stop a service whose handlers can be cut off: none of them
has failed. -/
structure Stopping (s : ServiceSystem σ) (stops : List Nat) : Prop where
  ordered : Ordered s.service s.callers
  yields : ∀ d ∈ s.service.shutdowns, d.Yields s.site.now
  well : ∀ i ∈ stops, ∃ c, s.callers[i]? = some c ∧ c.StopsWell

namespace Stopping

/-- A task takes a step. -/
lemma move (h : Stopping s stops) (hm : ServiceMove p s s') :
    Stopping s' stops where
  ordered := h.ordered.move hm
  yields := by
    rw [now_of_move hm]
    exact (groups_of_move h.ordered hm).yields h.yields
  well k hk := by
    obtain ⟨c₀, hc₀, hwell⟩ := h.well k hk
    cases hm with
    | loop | call | stop | wait => exact ⟨c₀, hc₀, hwell⟩
    | @caller i c c' hc hs =>
      by_cases hik : i = k
      · subst hik
        obtain rfl := Option.some.inj (hc.symm.trans hc₀)
        rcases hwell with ⟨t, rfl⟩ | rfl
        · obtain ⟨-, hm⟩ := Takedown.step_cases hs
          have ht := hm.turn
            (h.ordered.calls _ (List.mem_of_getElem? hc)) h.ordered.valid
          exact ⟨_, List.getElem?_set_self
            (List.getElem?_eq_some_iff.1 hc).1, ht.stopsWell h.yields⟩
        · cases hs
      · exact ⟨c₀, (List.getElem?_set_ne hik).trans hc₀, hwell⟩

/-- A call is made. -/
lemma join {c : CallState σ} (h : Stopping s stops)
    (ho : Ordered c.service (s.callers ++ [c.call]))
    (hnow : c.site.now = s.site.now)
    (hg : GroupsMove s.site s.service.shutdowns c.service.shutdowns) :
    Stopping (s.join c) stops where
  ordered := ho
  yields := by
    have hnow' : (s.join c).site.now = s.site.now :=
      (now_noteReturn _ _ _).trans hnow
    rw [hnow']
    exact hg.yields h.yields
  well k hk := by
    obtain ⟨c₀, hc₀, hwell⟩ := h.well k hk
    exact ⟨c₀, (List.getElem?_append_left
      (List.getElem?_eq_some_iff.1 hc₀).1).trans hc₀, hwell⟩

/-- Somebody stops the service. -/
lemma stop (h : Stopping s stops) :
    Stopping s.stop (stops ++ [s.callers.length]) := by
  have ht := Takedown.turn_begin s.site s.service h.ordered.valid
    h.ordered.idle
  have hsite := (Takedown.begin_cases s.site s.service).1
  have h' : Stopping s.stop stops :=
    h.join h.ordered.stop (congrArg Site.now hsite) ht.groups
  exact { h' with
    well := List.forall_mem_append.2 ⟨h'.well, List.forall_mem_singleton.2
      ⟨_, List.getElem?_concat_length, ht.stopsWell h.yields⟩⟩ }

/-- Somebody starts the service. -/
lemma start (h : Stopping s stops) : Stopping (s.start p) stops := by
  have hsame : (Startup.begin p s.site s.service).site.now = s.site.now
      ∧ (Startup.begin p s.site s.service).service.shutdowns
        = s.service.shutdowns := by
    cases hb : s.service.begun with
    | true =>
      rw [Startup.begin, hb]
      exact ⟨rfl, rfl⟩
    | false =>
      obtain ⟨call, hbegin, -⟩ := Startup.begin_cases (p := p) s.site hb
      rw [hbegin]
      exact ⟨rfl, rfl⟩
  refine h.join h.ordered.start hsame.1 ?_
  rw [hsame.2]
  exact .same

/-- Time passes. -/
lemma clock (h : Stopping s stops) (hcut : s.service.IsCutShort)
    (now : Nat) : Stopping (s.setNow now) stops where
  ordered := h.ordered
  yields d hd := (h.yields d hd).clock (hcut d hd) now
  well := h.well

end Stopping

/-- While every handler that was cut off is gone before time passes, no
stop fails. -/
lemma Driven.stopping (h : Driven p mayPass s stops)
    (hcut : ∀ sv, mayPass sv → sv.IsCutShort) : Stopping s stops := by
  induction h with
  | new now world config hasInventory cs =>
    have hnew : Driven p mayPass _ [] :=
      .new now world config hasInventory cs
    exact ⟨hnew.ordered, List.forall_mem_nil _, List.forall_mem_nil _⟩
  | start _ ih => exact ih.start
  | stop _ ih => exact ih.stop
  | step _ hs ih => exact ih.move (step_cases hs)
  | pass _ hp now ih => exact ih.clock (hcut _ hp) now
  | outside _ _ ih => exact ⟨ih.ordered, ih.yields, ih.well⟩

/-- The clock of the machine moves only when everything that was cut off is
gone. -/
lemma isCutShort_of_idle (hidle : (machine p).Idle s) :
    s.service.IsCutShort := by
  intro d hd t ht ha
  obtain ⟨k, hk⟩ := List.mem_iff_getElem?.1 ht
  by_contra hover
  have hnone := stepTask_of_idle hidle hd k
  simp [Shutdown.stepTask, hk, StopTask.step, hover, ha] at hnone

/-- A run of the machine is one in which the clock moves only when nothing
goes on that was cut off. -/
lemma Driven.of_runs (h : Driven p mayPass s stops)
    (hp : ∀ sv, sv.IsCutShort → mayPass sv) (hr : (machine p).Runs s s') :
    Driven p mayPass s' stops := by
  induction hr with
  | refl => exact h
  | tail _ hs ih =>
    cases hs with
    | run t ht => exact ih.step ht
    | wait hidle => exact ih.pass (hp _ (isCutShort_of_idle hidle)) _

end ServiceSystem

/-! ### What is left to do, and who can go on -/

/-- How many steps a loop takes at most to exit that is not to go on, with
those of the call that it may still make. -/
def LoopPhase.stepsToExit : LoopPhase → Nat
  | .exited => 0
  | .spawned | .idle _ => 1
  | .rejecting _ _ | .reporting _ _ => 2
  | .executing _ _ => 3
  | .claiming _ _ _ _ => 6
  | .polling _ => 7

lemma LoopPhase.stepsToExit_pos {ph : LoopPhase} (h : ph ≠ .exited) :
    0 < ph.stepsToExit := by
  cases ph with
  | exited => exact absurd rfl h
  | _ => exact Nat.succ_pos _

section Worker

variable {w w' w₁ : Worker} {ph ph' : LoopPhase} {new : List Event}

/-- How many steps the tasks of a worker take at most that is not to go
on. -/
def Worker.stepsToExit (w : Worker) : Nat :=
  (w.phases.map LoopPhase.stepsToExit).sum
    + (w.cores.map HandlerCall.steps).sum

lemma Worker.SameTasks.stepsToExit (h : w.SameTasks w') :
    w'.stepsToExit = w.stepsToExit := by
  rw [Worker.stepsToExit, h.phases, h.cores, Worker.stepsToExit]

/-- A loop that is not to go on has less to do after each of its moves, even
if it makes a call. -/
lemma LoopMove.stepsToExit_lt (h : LoopMove w ph new w₁ ph')
    (hrun : w.running = false) :
    ph'.stepsToExit + (w₁.cores.map HandlerCall.steps).sum
      < ph.stepsToExit + (w.cores.map HandlerCall.steps).sum := by
  have hrenews : w.Renews ph' → ph' = .exited := by
    rintro (⟨hgo, -⟩ | ⟨-, hex⟩)
    · rw [hrun] at hgo
      cases hgo
    · exact hex
  have hends : ∀ {r : Except Failure Unit}, w.Ends r ph' →
      ph'.stepsToExit ≤ 1 := by
    rintro (e | u) hr
    · obtain ⟨due, rfl⟩ := hr
      exact Nat.le_refl 1
    · rw [hrenews hr]
      exact Nat.zero_le 1
  cases h with
  | begin hr | wake hr =>
    rw [hrenews hr]
    exact Nat.add_lt_add_right Nat.zero_lt_one _
  | pollFailed | nothing | refuse | reject | accept | unclaimed =>
    simp [LoopPhase.stepsToExit]
  | rejected hr | reported hr =>
    exact Nat.add_lt_add_right (Nat.lt_succ_of_le (hends hr)) _
  | claimed =>
    -- the call that is made takes two steps
    rw [Worker.cores_spawnCall, List.map_append, List.sum_append]
    show 3 + (_ + 2) < 6 + _
    omega
  | conclude _ hc =>
    have hle : ph'.stepsToExit ≤ 2 := by
      rcases hc.1 with ⟨o', due, rfl⟩ | ⟨due, rfl⟩ <;>
        simp [LoopPhase.stepsToExit]
    exact Nat.add_lt_add_right (Nat.lt_succ_of_le hle) _

lemma Worker.stepsToExit_stepLoop (hrun : w.running = false)
    (hs : stepLoop p site w i = some (site', w')) :
    w'.stepsToExit < w.stepsToExit := by
  obtain ⟨l, hl, hne, hcases⟩ := stepLoop_cases hs
  have hph := phases_getElem? hl
  rcases hcases with ⟨-, -, rfl⟩ | ⟨-, new, w₁, seen, ph, hm, -, -, rfl⟩
  · have hsum := sum_map_set LoopPhase.stepsToExit hph .exited
    have hpos := LoopPhase.stepsToExit_pos hne
    have hcores : (w.setLoop i l .exited).cores = w.cores := rfl
    rw [stepsToExit, phases_setLoop, hcores, stepsToExit]
    rw [LoopPhase.stepsToExit] at hsum
    omega
  · have hsum := sum_map_set LoopPhase.stepsToExit hph ph
    have hlt := hm.stepsToExit_lt hrun
    have hphases : w₁.phases = w.phases :=
      congrArg (List.map PollLoop.phase) (loops_of_loopMove hm).1
    have hcores : (w₁.setLoop i { l with seen } ph).cores = w₁.cores := rfl
    rw [stepsToExit, phases_setLoop, hcores, hphases, stepsToExit]
    omega

lemma Worker.stepsToExit_stepCall
    (hs : stepCall p site w i = some (site', w')) :
    w'.stepsToExit < w.stepsToExit := by
  obtain ⟨c, es, ph, hc, hm, -, rfl⟩ := stepCall_cases hs
  have hsum := sum_map_set HandlerCall.steps (cores_getElem? hc)
    { c.core with phase := ph }
  have hlt := hm.steps_lt
  have hphases : (w.setCall i c ph).phases = w.phases := rfl
  rw [stepsToExit, cores_setCall, hphases, stepsToExit]
  omega

/-- A task of a worker that wakes can go on. -/
lemma Worker.exists_step_of_wake (p : Platform σ) (site : Site σ)
    (hd : site.now ∈ w.wakes) :
    (∃ i, stepLoop p site w i ≠ none) ∨ ∃ i, stepCall p site w i ≠ none := by
  rcases List.mem_append.1 hd with hd | hd
  · obtain ⟨l, hl, hwake⟩ := List.mem_filterMap.1 hd
    obtain ⟨i, hi⟩ := List.mem_iff_getElem?.1 hl
    have hne : l.phase ≠ .exited := fun hex => by
      rw [wake?, hex] at hwake
      cases hwake
    refine .inl ⟨i, ?_⟩
    cases ha : l.aborted with
    | true =>
      have hover : l.isOver = false := by simpa [PollLoop.isOver] using hne
      simp [stepLoop, hi, hover, ha]
    | false =>
      obtain ⟨r, hr⟩ := exists_stepLoop p hi ha hne
        (fun due' hdue' => by
          rw [Option.some.inj (hdue'.symm.trans hwake)])
        fun o n hex => by
          rw [wake?, hex] at hwake
          cases hwake
      exact hr ▸ Option.some_ne_none r
  · obtain ⟨c, hc, hwake⟩ := List.mem_filterMap.1 hd
    obtain ⟨i, hi⟩ := List.mem_iff_getElem?.1 hc
    have ho : c.isOver = false := by
      rw [callWake?] at hwake
      split at hwake
      · next hp => simp [HandlerCall.isOver, HandlerCall.result?, hp]
      · cases hwake
      · cases hwake
    obtain ⟨r, hr⟩ := exists_stepCall p hi ho fun due' hdue' => by
      rw [Option.some.inj (hdue'.symm.trans hwake)]
    exact .inr ⟨i, hr ▸ Option.some_ne_none r⟩

end Worker

lemma Shutdown.work_begin {cs : List Component} {timeout : Span}
    {terminate : Bool} {d : Shutdown}
    (h : begin? now cs timeout terminate = .ok d) :
    d.work = 2 * cs.length + 2 := by
  obtain ⟨-, rfl⟩ := begin?_eq_ok h
  have htask : (StopTask.work ∘ fun component : Component =>
      ({ component } : StopTask)) = fun _ => 2 := rfl
  rw [work, List.map_map, htask, List.map_const', List.sum_replicate_nat]
  rw [ShutdownPhase.work, Nat.mul_comm]

/-- How much there is to do for the handlers that are at work, once they are
told to stop. -/
def Service.stopWork (sv : Service) : Nat :=
  if sv.active.isEmpty then 0 else 2 * sv.active.handlers.length + 3

/-- How much is left to do for a worker that is not to go on and for the
handlers. -/
def Service.work (sv : Service) : Nat :=
  sv.worker.elim 0 Worker.stepsToExit + sv.stopWork
    + (sv.shutdowns.map Shutdown.work).sum

/-- How much is left for a stop to wait for. -/
def Takedown.work : Takedown → Nat
  | .stoppingWorker h _ => 5 + h.steps
  | .abortingWorker h _ => 2 + h.steps
  | .stoppingHandlers _ => 1

/-- How much is left for a call to wait for, if it is no startup. -/
def ServiceCall.work : ServiceCall → Nat
  | .takedown t => t.work
  | .startup _ | .returned _ | .unwound => 0

lemma Halt.steps_le_two (h : Halt) : h.steps ≤ 2 := by
  cases h <;> simp [steps]

section Takedown

variable {w w' : Worker} {h : Halt} {t : Halt → Takedown}

lemma Service.work_setWorker (hw : sv.worker = some w) (w' : Worker) :
    ({ sv with worker := some w' } : Service).work + w.stepsToExit
      = sv.work + w'.stepsToExit := by
  simp only [work, stopWork, hw, Option.elim_some]
  omega

lemma Service.work_setWorker_lt (hw : sv.worker = some w)
    (hlt : w'.stepsToExit < w.stepsToExit) :
    ({ sv with worker := some w' } : Service).work < sv.work := by
  have hset := work_setWorker hw w'
  omega

lemma Service.work_setShutdown_lt {k : Nat} {d d' : Shutdown}
    (hd : sv.shutdowns[k]? = some d) (hlt : d'.work < d.work) :
    ({ sv with shutdowns := sv.shutdowns.set k d' } : Service).work
      < sv.work := by
  have hsum := sum_map_set Shutdown.work hd d'
  simp only [work, stopWork]
  omega

/-- Telling the handlers to stop is some work itself. -/
lemma Closes.work_le (hc : Closes now sv sv' call) :
    sv'.work + call.work ≤ sv.work := by
  have hempty : HandlerTable.empty.isEmpty = true := rfl
  cases hc with
  | nothing he | refused he =>
    simp only [Service.work, Service.stopWork, hempty, if_true,
      ServiceCall.work]
    omega
  | group he hd =>
    have hwork := Shutdown.work_begin hd
    rw [List.length_map] at hwork
    simp only [Service.work, Service.stopWork, hempty, if_true, he,
      Bool.false_eq_true, if_false, ServiceCall.work, Takedown.work,
      List.map_append, List.map_cons, List.map_nil, List.sum_append,
      List.sum_cons, List.sum_nil, hwork]
    omega

lemma Awaits.work_le (ha : Awaits now sv w' t h sv' call)
    (hw : sv.worker = some w) (hsame : w.SameTasks w') :
    sv'.work + call.work ≤ sv.work + (t h).work := by
  have hset := Service.work_setWorker hw w'
  have hsteps := hsame.stepsToExit
  cases ha with
  | waits =>
    simp only [ServiceCall.work]
    omega
  | goesOn hc =>
    have hle := hc.work_le
    omega

/-- A stop goes on when its time is over. -/
lemma Takedown.exists_step {t : Takedown} {due : Nat}
    (hw : sv.worker = some w) (hd : t.due? = some due)
    (hle : due ≤ site.now) : t.step site sv ≠ none := by
  cases t with
  | stoppingWorker h deadline | abortingWorker h deadline =>
    obtain rfl := Option.some.inj hd
    rw [step, hw, Option.bind_eq_bind, Option.bind_some]
    split
    · exact Option.some_ne_none _
    · rw [if_pos hle]
      exact Option.some_ne_none _
  | stoppingHandlers k => cases hd

lemma Takedown.eq_stoppingHandlers {t : Takedown} (h : t.due? = none) :
    ∃ k, t = .stoppingHandlers k := by
  cases t with
  | stoppingWorker | abortingWorker => cases h
  | stoppingHandlers k => exact ⟨k, rfl⟩

/-- A stop that goes on leaves less to do. -/
lemma TakedownMove.work_lt {u : Takedown}
    (hm : TakedownMove now sv u sv' call) :
    sv'.work + call.work < sv.work + u.work := by
  cases hm with
  | finished hw hr ha | gone hw hr ha =>
    have hle := ha.work_le hw (.resume hr)
    have hlt := Worker.steps_resume_lt hr
    simp only [Takedown.work] at hle ⊢
    omega
  | @abort _ _ w _ _ hw hr _ ha =>
    have hle := ha.work_le hw (.beginAbort w)
    have hsteps := w.beginAbort.2.steps_le_two
    simp only [Takedown.work] at hle ⊢
    omega
  | leave _ _ _ hc =>
    have hle := hc.work_le
    simp only [Takedown.work]
    omega
  | stopped => exact Nat.lt_succ_self _

end Takedown

namespace ServiceSystem

variable {s s' : ServiceSystem σ} {mayPass : Service → Prop}
  {stops : List Nat} {t : Takedown} {w : Worker}

/-- How much is left to do when the worker is not to go on. -/
def work (s : ServiceSystem σ) : Nat :=
  s.service.work + (s.callers.map ServiceCall.work).sum

/-- A stop goes on, with a worker that is not to go on. -/
structure Halting (s : ServiceSystem σ) (i : Nat) (t : Takedown)
    (w : Worker) : Prop where
  waits : s.callers[i]? = some (.takedown t)
  worker : s.service.worker = some w
  running : w.running = false
  /-- Nobody starts the service meanwhile. -/
  noStartup : ∀ u, .startup u ∉ s.callers
  group : ∀ k, t = .stoppingHandlers k → k < s.service.shutdowns.length

/-- Until a stop has succeeded, it goes on. -/
lemma Stopping.halting (h : Stopping s stops) (hi : i ∈ stops)
    (hno : s.answer? i ≠ some (.ok ())) : ∃ t w, Halting s i t w := by
  obtain ⟨c, hc, ⟨t, rfl⟩ | rfl⟩ := h.well i hi
  · obtain ⟨⟨w, hw, hrun⟩, hk⟩ :=
      h.ordered.calls _ (List.mem_of_getElem? hc)
    refine ⟨t, w, hc, hw, hrun, fun u hu => ?_, hk⟩
    -- a startup goes on only as long as there is no worker
    have hnone : s.service.worker = none := (h.ordered.calls _ hu).2
    rw [hw] at hnone
    cases hnone
  · exact absurd (answer?_eq_some.2 hc) hno

namespace Halting

/-- Every step leaves less to do. -/
lemma work_lt (h : Halting s i t w) (hm : ServiceMove p s s') :
    s'.work < s.work := by
  cases hm with
  | loop hw hs =>
    obtain rfl := Option.some.inj (hw.symm.trans h.worker)
    have hlt := Worker.stepsToExit_stepLoop h.running hs
    exact Nat.add_lt_add_right (Service.work_setWorker_lt hw hlt) _
  | call hw hs =>
    have hlt := Worker.stepsToExit_stepCall hs
    exact Nat.add_lt_add_right (Service.work_setWorker_lt hw hlt) _
  | stop hd hs =>
    have hlt := Shutdown.work_stepTask hs
    exact Nat.add_lt_add_right (Service.work_setShutdown_lt hd hlt) _
  | wait hd hs =>
    have hlt := Shutdown.work_stepWait hs
    exact Nat.add_lt_add_right (Service.work_setShutdown_lt hd hlt) _
  | @caller k c c' hc hs =>
    have hsum := sum_map_set ServiceCall.work hc c'.call
    cases c with
    | startup u => exact absurd (List.mem_of_getElem? hc) (h.noStartup u)
    | returned | unwound => cases hs
    | takedown u =>
      have hlt := (Takedown.step_cases hs).2.work_lt
      simp only [work, ServiceCall.work] at hsum hlt ⊢
      omega

/-- Whoever waits wakes in time. -/
lemma exists_wake (h : Halting s i t w) (hidle : (machine p).Idle s) :
    ∃ d ∈ s.wakes, s.site.now < d := by
  have hmem := List.mem_of_getElem? h.waits
  have hstep : t.step s.site s.service = none :=
    stepCaller_of_idle hidle hmem
  cases hdue : t.due? with
  | some due =>
    refine ⟨due, List.mem_append_right _
      (List.mem_filterMap.2 ⟨_, hmem, hdue⟩), ?_⟩
    by_contra hle
    exact Takedown.exists_step h.worker hdue (Nat.le_of_not_lt hle) hstep
  | none =>
    -- a stop without a deadline waits for a group of handlers
    obtain ⟨k, rfl⟩ := Takedown.eq_stoppingHandlers hdue
    obtain ⟨d, hd⟩ : ∃ d, s.service.shutdowns[k]? = some d :=
      ⟨_, List.getElem?_eq_getElem (h.group k rfl)⟩
    have hgroup := List.mem_of_getElem? hd
    have hres : d.result? = none := by
      cases hr : d.result? with
      | none => rfl
      | some r =>
        cases r <;>
          simp [Takedown.step, Service.shutdownResult?, hd, hr] at hstep
    obtain ⟨due, hwake, hlt⟩ :=
      Shutdown.exists_wake hres (stepWait_of_idle hidle hgroup)
    exact ⟨due, List.mem_append_left _ (List.mem_append_right _
      (List.mem_flatMap.2 ⟨d, hgroup, hwake⟩)), hlt⟩

/-- Whoever wakes can go on. -/
lemma not_idle_of_wake (h : Halting s i t w)
    (ho : Ordered s.service s.callers) {d : Nat} (hd : d ∈ s.wakes) :
    ¬ (machine p).Idle (s.setNow d) := by
  intro hidle
  rcases List.mem_append.1 hd with hd | hd
  · rcases List.mem_append.1 hd with hd | hd
    · rw [h.worker, Option.toList_some, List.flatMap_singleton] at hd
      rcases Worker.exists_step_of_wake p (s.setNow d).site hd with
        ⟨k, hk⟩ | ⟨k, hk⟩
      · exact hk (stepLoop_of_idle hidle h.worker k)
      · exact hk (stepCall_of_idle hidle h.worker k)
    · obtain ⟨g, hg, hd⟩ := List.mem_flatMap.1 hd
      rcases Shutdown.exists_step_of_wake (s := (s.setNow d).site) hd rfl
        with hs | ⟨k, hs⟩
      · exact hs (stepWait_of_idle hidle hg)
      · exact hs (stepTask_of_idle hidle hg k)
  · obtain ⟨c, hc, hdue⟩ := List.mem_filterMap.1 hd
    cases c with
    | startup u => exact h.noStartup u hc
    | returned | unwound => cases hdue
    | takedown u =>
      obtain ⟨⟨w', hw', -⟩, -⟩ := ho.calls _ hc
      have hnone : u.step (s.setNow d).site s.service = none :=
        stepCaller_of_idle hidle hc
      exact absurd hnone (Takedown.exists_step hw' hdue (Nat.le_refl d))

end Halting

/-- Whatever the tasks do, every stop comes to succeed. -/
theorem Stopping.inevitable (h : Stopping s stops) (hi : i ∈ stops) :
    (machine p).Inevitable (fun s => s.answer? i = some (.ok ())) s := by
  refine Machine.Inevitable.of_measure (I := fun s => Stopping s stops) work
    (fun s s' h _ hs => ?_) (fun s h hno hidle => ?_)
    (fun s h hno d hd _ => ?_) (fun s t s' h hno hs => ?_)
    (fun _ _ => rfl) h
  · cases hs with
    | run t ht => exact h.move (step_cases ht)
    | wait hidle => exact h.clock (isCutShort_of_idle hidle) _
  · obtain ⟨t, w, hh⟩ := h.halting hi hno
    exact hh.exists_wake hidle
  · obtain ⟨t, w, hh⟩ := h.halting hi hno
    exact hh.not_idle_of_wake h.ordered hd
  · obtain ⟨t, w, hh⟩ := h.halting hi hno
    exact hh.work_lt (step_cases hs)

/-- A stop succeeds: it returns no error, and it does return. -/
structure Succeeds (p : Platform σ) (s : ServiceSystem σ) (i : Nat) :
    Prop where
  answer : ∀ r, s.answer? i = some r → r = .ok ()
  returns : (machine p).Inevitable (fun s => s.answer? i = some (.ok ())) s

lemma Stopping.succeeds (h : Stopping s stops) (hi : i ∈ stops) :
    Succeeds p s i where
  answer r hr := by
    obtain ⟨c, hc, hwell⟩ := h.well i hi
    obtain rfl := Option.some.inj (hc.symm.trans (answer?_eq_some.1 hr))
    rcases hwell with ⟨t, ht⟩ | hok
    · cases ht
    · exact ServiceCall.returned.inj hok
  returns := h.inevitable hi

/-- Handlers are told to stop only if there are some and they have time, in
whichever order a service is started and stopped; and if the stops of all
handlers can be cut off, every stop of the service succeeds. -/
theorem stops_of_driven (h : Driven p mayPass s stops) :
    s.Provided ∧ ((∀ sv, mayPass sv → sv.IsCutShort) →
      ∀ i ∈ stops, Succeeds p s i) :=
  ⟨h.provided, fun hcut _ hi => (h.stopping hcut).succeeds hi⟩

/-- A service with a handler that takes a minute to stop. -/
def slowBackup : ServiceSystem (MemoryPlatform × Unit) where
  site := { world := ({}, ()) }
  service := { config := {}, candidates := [
    { uid := 0, name := "restarts", kinds := [Kind.restart] },
    { uid := 1, name := "backups", kinds := ["c8y_Backup"],
      stopPhase := { delay := 60000 } }] }

/-- It is stopped before it is started, while its handlers are at work, and
once more when they are gone.  The slow one is cut off. -/
theorem stops_slowBackup :
    let p := Host.prompt.platform
    let s₁ := (machine p).settle 60 (slowBackup.stop.start p)
    let s₂ := (machine p).settle 60 s₁.stop
    let s₃ := (machine p).settle 60 (s₂.setNow 10000)
    let s₄ := (machine p).settle 60 s₃.stop
    s₁.service.activeKinds = [Kind.restart, "c8y_Backup"]
      ∧ s₂.answer? 2 = none
      ∧ (machine p).Inevitable (fun s => s.answer? 2 = some (.ok ())) s₂
      ∧ s₃.service.shutdowns.map (·.tasks.map (·.aborted)) = [[true, true]]
      ∧ s₄.Provided
      ∧ [0, 2, 3].map s₄.answer? = List.replicate 3 (some (.ok ())) := by
  intro p s₁ s₂ s₃ s₄
  have hp : ∀ sv : Service, sv.IsCutShort → sv.IsCutShort := fun _ => id
  have h₀ : Driven p Service.IsCutShort slowBackup [] :=
    .new 0 _ {} true _
  have h₁ : Driven p Service.IsCutShort s₁ [0] :=
    h₀.stop.start.of_runs hp (Machine.settle_runs 60 _)
  have hnext : s₁.callers.length = 2 := by decide +kernel
  have h₂ : Driven p Service.IsCutShort s₂ [0, 2] :=
    (hnext ▸ h₁.stop).of_runs hp (Machine.settle_runs 60 _)
  have h₃ : Driven p Service.IsCutShort s₃ [0, 2] :=
    (h₂.pass (by decide +kernel) 10000).of_runs hp
      (Machine.settle_runs 60 _)
  have hlast : s₃.callers.length = 3 := by decide +kernel
  have h₄ : Driven p Service.IsCutShort s₄ [0, 2, 3] :=
    (hlast ▸ h₃.stop).of_runs hp (Machine.settle_runs 60 _)
  obtain ⟨-, hstops⟩ := stops_of_driven h₂
  obtain ⟨hprovided, -⟩ := stops_of_driven h₄
  exact ⟨by decide +kernel, by decide +kernel,
    (hstops hp 2 (by decide)).returns, by decide +kernel, hprovided,
    by decide +kernel⟩

end ServiceSystem

end RemoteOps
