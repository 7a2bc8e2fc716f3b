/-
Groups of components that are told to stop.

Each component is told by a task that can run at once, so that all of
them have been told before the clock moves, and none is cut off before.

* `StopTask.step_cases`: the moves of a task;
* `Shutdown.Prompt`: which components have been told;
* `Shutdown.Prompt.begin`, `Shutdown.Prompt.stepTask`,
  `Shutdown.Prompt.stepWait`, `Shutdown.Prompt.clock`: every change keeps
  it, as long as whoever is still to be told has time left;
* `Shutdown.Prompt.count_of_finished`: when the wait is over, every
  component has been told once;
* `Shutdown.work_stepTask`, `Shutdown.work_stepWait`: every step leaves
  less to do;
* `Shutdown.exists_wake`, `Shutdown.exists_step_of_wake`: until the wait
  is over, somebody can go on or will wake.
-/
import Mathlib.Tactic.Lemma
import RemoteOps.Proofs.Inevitable
import RemoteOps.Proofs.Journal
import RemoteOps.Proofs.Lists
import RemoteOps.Shutdown

namespace RemoteOps

/-! ### Tasks -/

/-- The events that a task enters and the phase that it comes to. -/
inductive StopMove (t : StopTask) : List Event → StopPhase → Prop where
  | cut (ha : t.aborted = true) : StopMove t [] .over
  | begin {due : Nat} (hp : t.phase = .spawned) :
    StopMove t [.stop t.component] (.stopping due)
  | finish {due : Nat} (hp : t.phase = .stopping due) :
    StopMove t [.stopped t.component] .over
  | fail {due : Nat} (hp : t.phase = .stopping due) : StopMove t [] .over

/-- A task that takes a step makes one of the moves. -/
lemma StopTask.step_cases {σ : Type} {s s' : Site σ} {t t' : StopTask}
    (h : t.step s = some (s', t')) :
    ∃ es phase, StopMove t es phase ∧ s.Enters es s'
      ∧ t' = { t with phase } := by
  rw [step] at h
  split at h
  · cases h
  · split at h
    · next ha =>
      cases h
      exact ⟨_, _, .cut ha, .refl s, rfl⟩
    · split at h
      · next hp =>
        cases h
        exact ⟨_, _, .begin hp, (Site.Enters.refl s).note _, rfl⟩
      · next due hp =>
        split at h
        · cases h
          split
          · exact ⟨_, _, .finish hp, (Site.Enters.refl s).note _, rfl⟩
          · exact ⟨_, _, .fail hp, .refl s, rfl⟩
        · cases h
      · cases h

/-- A task that was not told to stop can tell its component. -/
lemma StopTask.exists_step {σ : Type} (s : Site σ) {t : StopTask}
    (h : t.phase = .spawned) : t.step s ≠ none := by
  have hover : t.isOver = false := by simp [isOver, h]
  rw [step, hover, if_neg Bool.false_ne_true]
  split
  · exact Option.some_ne_none _
  · simp only [h]
    exact Option.some_ne_none _

namespace Shutdown

/-- The components of a group. -/
def components (d : Shutdown) : List Component := d.tasks.map (·.component)

variable {σ : Type} {s s' : Site σ} {d d' : Shutdown} {now i : Nat}

lemma begin?_eq_ok {cs : List Component} {timeout : Span}
    {terminate : Bool} (h : begin? now cs timeout terminate = .ok d) :
    timeout.isZero = false ∧ d = {
      tasks := cs.map fun component => { component }
      timeout, terminate
      phase := .draining (timeout.deadline now) } := by
  rw [begin?] at h
  split at h
  · cases h
  · split at h
    · cases h
    · next hz => exact ⟨by simpa using hz, (Except.ok.inj h).symm⟩

lemma components_begin {cs : List Component} {timeout : Span}
    {terminate : Bool} (h : begin? now cs timeout terminate = .ok d) :
    d.components = cs := by
  obtain ⟨-, rfl⟩ := begin?_eq_ok h
  rw [components, List.map_map]
  exact List.map_id' cs

lemma stepTask_cases (h : d.stepTask s i = some (s', d')) :
    ∃ t es phase, d.tasks[i]? = some t ∧ StopMove t es phase
      ∧ s.Enters es s'
      ∧ d' = { d with tasks := d.tasks.set i { t with phase } } := by
  obtain ⟨t, ht, hrest⟩ := Option.bind_eq_some_iff.1 h
  obtain ⟨⟨s₁, t'⟩, hstep, hd⟩ := Option.bind_eq_some_iff.1 hrest
  cases hd
  obtain ⟨es, phase, hm, he, rfl⟩ := StopTask.step_cases hstep
  exact ⟨t, es, phase, ht, hm, he, rfl⟩

/-- Whoever waits either leaves the tasks as they are or has them cut off
when the time is over. -/
lemma stepWait_cases (h : d.stepWait now = some d') :
    d'.tasks = d.tasks ∧ d.remaining = 0
      ∨ ∃ deadline, (d.phase = .draining deadline
          ∨ d.phase = .terminating deadline) ∧ deadline ≤ now
        ∧ (d'.tasks = d.tasks
          ∨ d'.tasks = d.tasks.map fun t => { t with aborted := true }) := by
  rw [stepWait] at h
  split at h
  · next deadline hp =>
    split at h
    · next hr =>
      cases h
      exact .inl ⟨rfl, hr⟩
    · split at h
      · next hdue =>
        refine .inr ⟨deadline, .inl hp, hdue, ?_⟩
        split at h
        · cases h
          exact .inr rfl
        · cases h
          exact .inl rfl
      · cases h
  · next deadline hp =>
    split at h
    · next hr =>
      cases h
      exact .inl ⟨rfl, hr⟩
    · split at h
      · next hdue =>
        cases h
        exact .inr ⟨deadline, .inr hp, hdue, .inl rfl⟩
      · cases h
  · cases h

lemma remaining_eq_zero_iff :
    d.remaining = 0 ↔ ∀ t ∈ d.tasks, t.isOver = true := by
  simp [remaining]

/-- A group of which nobody is at work does nothing more. -/
lemma stepTask_of_remaining (h : d.remaining = 0) :
    d.stepTask s i = none := by
  cases ht : d.tasks[i]? with
  | none => simp [stepTask, ht]
  | some t =>
    have hover := remaining_eq_zero_iff.1 h t (List.mem_of_getElem? ht)
    simp [stepTask, ht, StopTask.step_of_over hover]

lemma components_stepTask (h : d.stepTask s i = some (s', d')) :
    d'.components = d.components := by
  obtain ⟨t, es, phase, ht, -, -, rfl⟩ := stepTask_cases h
  rw [components, List.map_set, components]
  refine List.ext_getElem? fun k => ?_
  by_cases hk : i = k
  · subst hk
    have hi := (List.getElem?_eq_some_iff.1 ht).1
    rw [List.getElem?_set_self (by simpa using hi), List.getElem?_map, ht]
    rfl
  · rw [List.getElem?_set_ne hk]

lemma components_stepWait (h : d.stepWait now = some d') :
    d'.components = d.components := by
  rw [components, components]
  rcases stepWait_cases h with ⟨htasks, -⟩ | ⟨_, -, -, htasks | htasks⟩
  · rw [htasks]
  · rw [htasks]
  · rw [htasks, List.map_map]
    rfl

lemma result?_stepTask (h : d.stepTask s i = some (s', d')) :
    d'.result? = d.result? := by
  obtain ⟨t, es, phase, -, -, -, rfl⟩ := stepTask_cases h
  rfl

/-- When the wait is over, it stays so. -/
lemma stepWait_of_finished (h : d.result?.isSome = true) :
    d.stepWait now = none := by
  rw [result?] at h
  rw [stepWait]
  cases hp : d.phase with
  | finished r => rfl
  | draining | terminating =>
    rw [hp] at h
    cases h

/-! ### The components that were told -/

/-- Until when the components have time to stop. -/
def drainDeadline? (d : Shutdown) : Option Nat :=
  match d.phase with
  | .draining deadline => some deadline
  | .terminating _ | .finished _ => none

/-- Whoever is still to be told has time left at some moment. -/
def TellsInTime (now : Nat) (d : Shutdown) : Prop :=
  ∀ t ∈ d.tasks, t.phase = .spawned →
    ∀ deadline ∈ d.drainDeadline?, now < deadline

instance (now : Nat) (d : Shutdown) : Decidable (d.TellsInTime now) :=
  inferInstanceAs (Decidable (∀ t ∈ d.tasks, t.phase = .spawned →
    ∀ deadline ∈ d.drainDeadline?, now < deadline))

/-- When no task can take a step, everybody has been told. -/
lemma tellsInTime_of_idle (hidle : ∀ i, d.stepTask s i = none) (now : Nat) :
    d.TellsInTime now := by
  intro t ht hsp
  obtain ⟨i, hi⟩ := List.mem_iff_getElem?.1 ht
  have hnone := hidle i
  rw [stepTask, hi] at hnone
  cases hstep : t.step s with
  | none => exact absurd hstep (StopTask.exists_step s hsp)
  | some r => simp [hstep] at hnone

/-- Some components have been told to stop; the tasks that have not told
theirs have time left. -/
structure Prompt (now : Nat) (told : List Component) (d : Shutdown) :
    Prop where
  count : ∀ c, told.count c
    = d.tasks.countP fun t => t.component = c ∧ t.phase ≠ .spawned
  spawned : ∀ t ∈ d.tasks, t.phase = .spawned → t.aborted = false
    ∧ ∃ deadline, d.phase = .draining deadline ∧ now < deadline

namespace Prompt

variable {told : List Component}

lemma begin {cs : List Component} {timeout : Span} {terminate : Bool}
    (h : begin? now cs timeout terminate = .ok d) : d.Prompt now [] := by
  obtain ⟨hz, rfl⟩ := begin?_eq_ok h
  refine ⟨fun c => ?_, fun t ht _ => ?_⟩
  · rw [List.count_nil, List.countP_map, eq_comm, List.countP_eq_zero]
    simp
  · obtain ⟨c, -, rfl⟩ := List.mem_map.1 ht
    exact ⟨rfl, _, rfl, Span.lt_deadline hz⟩

/-- A task tells its component only once. -/
lemma stepTask (h : d.Prompt now told)
    (hs : d.stepTask s i = some (s', d')) :
    ∃ es, s.Enters es s' ∧ d'.Prompt now (told ++ es.filterMap Event.stop?)
      ∧ ∀ e ∈ es, (∃ c, e = .stop c) ∨ ∃ c, e = .stopped c := by
  obtain ⟨t, es, phase, ht, hm, he, rfl⟩ := stepTask_cases hs
  obtain ⟨hi, hget⟩ := List.getElem?_eq_some_iff.1 ht
  have hmem : t ∈ d.tasks := List.mem_of_getElem? ht
  have hphase : phase ≠ .spawned := by
    cases hm <;> exact StopPhase.noConfusion
  have hspawned : ∀ t' ∈ d.tasks.set i { t with phase },
      t'.phase = .spawned → t'.aborted = false
        ∧ ∃ deadline, d.phase = .draining deadline ∧ now < deadline := by
    exact forall_mem_set h.spawned (fun hp => absurd hp hphase) i
  refine ⟨es, he, ⟨fun c => ?_, hspawned⟩, fun e hmem => ?_⟩
  · have hle : (if t.component = c ∧ t.phase ≠ .spawned then 1 else 0)
        ≤ d.tasks.countP fun t => t.component = c ∧ t.phase ≠ .spawned := by
      split
      · next hc =>
        exact List.countP_pos_iff.2 ⟨t, hmem, decide_eq_true hc⟩
      · exact Nat.zero_le _
    have hnew : (if t.component = c ∧ phase ≠ .spawned then 1 else 0)
        = (if t.component = c ∧ t.phase ≠ .spawned then 1 else 0)
          + (es.filterMap Event.stop?).count c := by
      cases hm with
      | cut ha =>
        have hne : t.phase ≠ .spawned := fun hp => by
          rw [(h.spawned t hmem hp).1] at ha
          cases ha
        simp [hne]
      | begin hp => simp [hp, Event.stop?, List.count_singleton]
      | finish hp =>
        have hnone : Event.stop? (.stopped t.component) = none := rfl
        simp [hp, hnone]
      | fail hp => simp [hp]
    rw [List.count_append, h.count c, List.countP_set hi, hget]
    simp only [decide_eq_true_eq]
    omega
  · cases hm with
    | begin hp => exact .inl ⟨_, List.mem_singleton.1 hmem⟩
    | finish hp => exact .inr ⟨_, List.mem_singleton.1 hmem⟩
    | cut | fail => cases hmem

/-- Nobody is cut off who has time left. -/
lemma stepWait (h : d.Prompt now told) (hs : d.stepWait now = some d') :
    d'.Prompt now told := by
  rcases stepWait_cases hs with ⟨htasks, hr⟩ | ⟨deadline, hp, hdue, htasks⟩
  · have hover : ∀ t ∈ d.tasks, t.phase ≠ .spawned := by
      intro t ht hsp
      have := List.countP_eq_zero.1 hr t ht
      simp [StopTask.isOver, hsp] at this
    refine ⟨fun c => by rw [htasks, h.count c], fun t ht hsp => ?_⟩
    exact absurd hsp (hover t (htasks ▸ ht))
  · have hno : ∀ t ∈ d.tasks, t.phase ≠ .spawned := by
      intro t ht hsp
      obtain ⟨-, deadline', hp', hlt⟩ := h.spawned t ht hsp
      rcases hp with hp | hp
      · rw [hp, ShutdownPhase.draining.injEq] at hp'
        omega
      · rw [hp] at hp'
        cases hp'
    rcases htasks with htasks | htasks
    · refine ⟨fun c => by rw [htasks, h.count c], fun t ht hsp => ?_⟩
      exact absurd hsp (hno t (htasks ▸ ht))
    · refine ⟨fun c => ?_, fun t ht hsp => ?_⟩
      · rw [htasks, List.countP_map, h.count c]
        rfl
      · rw [htasks] at ht
        obtain ⟨t₀, ht₀, rfl⟩ := List.mem_map.1 ht
        exact absurd hsp (hno t₀ ht₀)

/-- Time passes. -/
lemma clock (h : d.Prompt now told) {now' : Nat}
    (htell : d.TellsInTime now') : d.Prompt now' told := by
  refine ⟨h.count, fun t ht hsp => ?_⟩
  obtain ⟨ha, deadline, hp, -⟩ := h.spawned t ht hsp
  exact ⟨ha, deadline, hp, htell t ht hsp deadline
    (by rw [drainDeadline?, hp]; rfl)⟩

lemma of_idle (h : d.Prompt now told)
    (hidle : ∀ i, d.stepTask s i = none) (now' : Nat) :
    d.Prompt now' told :=
  h.clock (tellsInTime_of_idle hidle now')

/-- When no task is left that has not told its component, every component
has been told once. -/
lemma count_of_told (h : d.Prompt now told)
    (hno : ∀ t ∈ d.tasks, t.phase ≠ .spawned) (c : Component) :
    told.count c = d.components.count c := by
  rw [h.count c, components, List.count_eq_countP, List.countP_map]
  refine List.countP_congr fun t ht => ?_
  simp [hno t ht]

/-- When the wait is over, every task has told its component. -/
lemma ne_spawned_of_finished (h : d.Prompt now told)
    (hr : d.result?.isSome = true) : ∀ t ∈ d.tasks, t.phase ≠ .spawned := by
  intro t ht hsp
  obtain ⟨-, deadline, hp, -⟩ := h.spawned t ht hsp
  rw [result?, hp] at hr
  cases hr

/-- When the wait is over, every component has been told once. -/
lemma count_of_finished (h : d.Prompt now told)
    (hr : d.result?.isSome = true) (c : Component) :
    told.count c = d.components.count c :=
  h.count_of_told (h.ne_spawned_of_finished hr) c

/-- At no time has a component been told more than once. -/
lemma count_le (h : d.Prompt now told) (c : Component) :
    told.count c ≤ d.components.count c := by
  rw [h.count c, components, List.count_eq_countP, List.countP_map]
  refine List.countP_mono_left fun t _ ht => ?_
  simp_all

end Prompt

end Shutdown

/-! ### What is left to do -/

/-- The number of steps that a task has still to take, unless it is cut
off. -/
def StopTask.work (t : StopTask) : Nat :=
  match t.phase with
  | .spawned => 2
  | .stopping _ => 1
  | .over => 0

lemma StopTask.work_pos {t : StopTask} (h : t.isOver = false) :
    0 < t.work := by
  rw [work]
  split
  · exact Nat.two_pos
  · exact Nat.one_pos
  · next hp => simp [isOver, hp] at h

/-- How much is left for the one who waits. -/
def ShutdownPhase.work : ShutdownPhase → Nat
  | .draining _ => 2
  | .terminating _ => 1
  | .finished _ => 0

namespace Shutdown

/-- How much is left to do for a group. -/
def work (d : Shutdown) : Nat :=
  (d.tasks.map StopTask.work).sum + d.phase.work

variable {σ : Type} {s s' : Site σ} {d d' : Shutdown} {now w i : Nat}

lemma work_stepTask (h : d.stepTask s i = some (s', d')) :
    d'.work < d.work := by
  obtain ⟨t, ht, hrest⟩ := Option.bind_eq_some_iff.1 h
  obtain ⟨⟨s₁, t'⟩, hstep, hd⟩ := Option.bind_eq_some_iff.1 hrest
  cases hd
  have hlt : t'.work < t.work := by
    have hover : t.isOver = false := Bool.eq_false_iff.2 fun h => by
      rw [StopTask.step_of_over h] at hstep
      cases hstep
    obtain ⟨es, phase, hm, -, rfl⟩ := StopTask.step_cases hstep
    cases hm with
    | cut ha => exact StopTask.work_pos hover
    | begin hp | finish hp | fail hp => simp [StopTask.work, hp]
  have := sum_map_set StopTask.work ht t'
  simp only [work]
  omega

lemma work_stepWait (h : d.stepWait now = some d') : d'.work < d.work := by
  have hcut : ((d.tasks.map fun t => { t with aborted := true }).map
      StopTask.work) = d.tasks.map StopTask.work := by
    rw [List.map_map]
    rfl
  rw [stepWait] at h
  split at h
  · next deadline hp =>
    split at h
    · cases h
      simp [work, hp, ShutdownPhase.work]
    · split at h
      · split at h
        · cases h
          simp only [work, hp, ShutdownPhase.work, hcut]
          omega
        · cases h
          simp [work, giveUp, hp, ShutdownPhase.work]
      · cases h
  · next deadline hp =>
    split at h
    · cases h
      simp [work, hp, ShutdownPhase.work]
    · split at h
      · cases h
        simp [work, giveUp, hp, ShutdownPhase.work]
      · cases h
  · cases h

/-- Whoever waits and cannot go on wakes at the deadline. -/
lemma exists_wake (hr : d.result? = none) (h : d.stepWait now = none) :
    ∃ w ∈ d.wakes, now < w := by
  rw [result?] at hr
  rw [stepWait] at h
  cases hp : d.phase with
  | finished r => simp [hp] at hr
  | draining deadline =>
    refine ⟨deadline, by simp [wakes, hp], Nat.lt_of_not_le fun hle => ?_⟩
    simp only [hp, hle, if_true] at h
    split at h
    · cases h
    · split at h <;> cases h
  | terminating deadline =>
    refine ⟨deadline, by simp [wakes, hp], Nat.lt_of_not_le fun hle => ?_⟩
    simp only [hp, hle, if_true] at h
    split at h <;> cases h

/-- Whoever wakes can go on. -/
lemma exists_step_of_wake (hw : w ∈ d.wakes) (hnow : s.now = w) :
    d.stepWait s.now ≠ none ∨ ∃ i, d.stepTask s i ≠ none := by
  rcases List.mem_append.1 hw with hw | hw
  · refine .inl ?_
    rw [stepWait]
    cases hp : d.phase with
    | finished r =>
      rw [hp] at hw
      cases hw
    | draining deadline =>
      rw [hp, List.mem_singleton] at hw
      simp only [hnow, hw, Nat.le_refl, if_true]
      split
      · exact Option.some_ne_none _
      · split <;> exact Option.some_ne_none _
    | terminating deadline =>
      rw [hp, List.mem_singleton] at hw
      simp only [hnow, hw, Nat.le_refl, if_true]
      split <;> exact Option.some_ne_none _
  · obtain ⟨t, ht, hdue⟩ := List.mem_filterMap.1 hw
    obtain ⟨i, hi⟩ := List.mem_iff_getElem?.1 ht
    have hphase : t.phase = .stopping w := by
      rw [StopTask.wake?] at hdue
      split at hdue
      · next due hp => rw [hp, Option.some.inj hdue]
      · cases hdue
      · cases hdue
    refine .inr ⟨i, ?_⟩
    have hstep : t.step s ≠ none := by
      have hover : t.isOver = false := by simp [StopTask.isOver, hphase]
      rw [StopTask.step, hover, if_neg Bool.false_ne_true]
      split
      · exact Option.some_ne_none _
      · simp [hphase, hnow]
    obtain ⟨r, hr⟩ := Option.ne_none_iff_exists'.1 hstep
    simp [stepTask, hi, hr]

end Shutdown

end RemoteOps
