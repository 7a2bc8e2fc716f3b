/-
Calls that stop components, on the clock.

How long each component takes to stop decides what a call returns and
when; how it ends does not.  Until the deadline of the call every task
goes its own way; then those that are still at work belong to the late
components.

* `Shutdown.verdict`, `Shutdown.duration`: what a call returns, and after
  how long;
* `StopTask.stopStep`: what a step of a task does;
* `StopCall.Underway`: how far a call is;
* `StopCall.Underway.step`: every step keeps it.
-/
import Mathlib.Data.List.MinMax
import Mathlib.Order.Nat
import RemoteOps.Proofs.Shutdown

namespace RemoteOps

/-- How long a component takes to stop, in milliseconds. -/
def Component.stopTime (c : Component) : Nat :=
  min c.stopPhase.delay Clock.longestWait

/-- Whether some milliseconds are longer than a span. -/
def Span.isExceededBy (d : Span) (ms : Nat) : Bool :=
  d.nanos < ms * 1000000

lemma Span.isExceededBy_iff {d : Span} {ms : Nat} (h : ms ≠ d.ceilMillis) :
    d.isExceededBy ms = true ↔ d.ceilMillis < ms := by
  rw [isExceededBy, decide_eq_true_iff]
  rw [ceilMillis] at h ⊢
  omega

/-! ### The verdict -/

namespace Shutdown

/-- The number of stop times that are longer than the timeout. -/
def lateCount (timeout : Span) (times : List Nat) : Nat :=
  times.countP timeout.isExceededBy

/-- What stopping components returns, by their stop times. -/
def verdict (timeout : Span) (terminate : Bool) (times : List Nat) :
    Except ShutdownError Unit :=
  if lateCount timeout times = 0 ∨ terminate = true then .ok ()
  else .error (.notTerminated (lateCount timeout times) timeout)

/-- How long stopping components takes, by their stop times. -/
def duration (timeout : Span) (times : List Nat) : Nat :=
  if lateCount timeout times = 0 then times.foldr max 0
  else timeout.ceilMillis

end Shutdown

/-! ### Calls -/

/-- A call that stops components. -/
structure StopCall where
  now : Nat
  components : List Component
  timeout : Span
  terminate : Bool

namespace StopCall

/-- How the call begins. -/
def begin? (p : StopCall) : Except ShutdownError ShutdownSystem :=
  (Shutdown.begin? p.now p.components p.timeout p.terminate).map
    fun shutdown => { site := { now := p.now, world := () }, shutdown }

/-- The stop times of the components. -/
def times (p : StopCall) : List Nat := p.components.map (·.stopTime)

/-- A component takes longer to stop than the timeout. -/
def IsLate (p : StopCall) (c : Component) : Prop :=
  p.timeout.isExceededBy c.stopTime = true

instance (p : StopCall) : DecidablePred p.IsLate :=
  fun c => inferInstanceAs (Decidable (p.timeout.isExceededBy c.stopTime = true))

/-- When a component has stopped by itself. -/
def due (p : StopCall) (c : Component) : Nat := p.now + c.stopTime

/-- When the time of the components is over. -/
def deadline (p : StopCall) : Nat := p.now + p.timeout.ceilMillis

/-- The number of late components. -/
def lateCount (p : StopCall) : Nat := Shutdown.lateCount p.timeout p.times

/-- What the call returns. -/
def verdict (p : StopCall) : Except ShutdownError Unit :=
  Shutdown.verdict p.timeout p.terminate p.times

/-- When the call returns. -/
def returnTime (p : StopCall) : Nat :=
  p.now + Shutdown.duration p.timeout p.times

/-- A call that is not refused: the clock has a time for its deadline, at
which no component stops. -/
structure Regular (p : StopCall) : Prop where
  positive : p.timeout.isZero = false
  inRange : p.timeout.ceilMillis ≤ Clock.longestWait
  apart : ∀ c ∈ p.components, c.stopTime ≠ p.timeout.ceilMillis

variable {p : StopCall}

lemma lateCount_eq : p.lateCount
    = p.components.countP fun c => p.timeout.isExceededBy c.stopTime :=
  List.countP_map

lemma lateCount_eq_zero :
    p.lateCount = 0 ↔ ∀ c ∈ p.components, ¬ p.IsLate c := by
  rw [lateCount_eq, List.countP_eq_zero]
  rfl

namespace Regular

variable {c : Component}

lemma now_lt_deadline (h : p.Regular) : p.now < p.deadline := by
  have hlt : p.now < p.timeout.deadline p.now := Span.lt_deadline h.positive
  rwa [Span.deadline, Clock.after_eq h.inRange] at hlt

lemma deadline_eq (h : p.Regular) : p.timeout.deadline p.now = p.deadline :=
  Clock.after_eq h.inRange

lemma isLate_iff (h : p.Regular) (hc : c ∈ p.components) :
    p.IsLate c ↔ p.deadline < p.due c := by
  rw [IsLate, Span.isExceededBy_iff (h.apart c hc), deadline, due]
  omega

lemma due_ne (h : p.Regular) (hc : c ∈ p.components) :
    p.due c ≠ p.deadline := by
  have := h.apart c hc
  rw [due, deadline]
  omega

/-- A call does not return after its deadline. -/
lemma returnTime_le (h : p.Regular) : p.returnTime ≤ p.deadline := by
  refine Nat.add_le_add_left ?_ p.now
  rw [Shutdown.duration]
  split
  · next hl =>
    refine List.max_le_of_forall_le p.times _ fun d hd => ?_
    obtain ⟨c, hc, rfl⟩ := List.mem_map.1 hd
    have hno := mt (h.isLate_iff hc).2 (lateCount_eq_zero.1 hl c hc)
    rw [deadline, due] at hno
    omega
  · exact Nat.le_refl _

end Regular

/-- Without late components a call returns with the last of them. -/
lemma due_le_returnTime (hl : p.lateCount = 0) {c : Component}
    (hc : c ∈ p.components) : p.due c ≤ p.returnTime := by
  have hmem : c.stopTime ∈ p.times := List.mem_map_of_mem hc
  rw [returnTime, Shutdown.duration, ← lateCount, if_pos hl]
  exact Nat.add_le_add_left (List.le_max_of_le hmem le_rfl) p.now

lemma returnTime_of_late (hl : p.lateCount ≠ 0) :
    p.returnTime = p.deadline := by
  rw [returnTime, Shutdown.duration, ← lateCount, if_neg hl, deadline]

end StopCall

/-- A task is over. -/
def ShutdownSystem.IsOver (s : ShutdownSystem) (i : Nat) : Prop :=
  ∃ t, s.shutdown.tasks[i]? = some t ∧ t.isOver = true

/-! ### Tasks on the clock -/

/-- What a step of a task does. -/
inductive StopStep {σ : Type} (s : Site σ) (t : StopTask) :
    Site σ → StopTask → Prop where
  | cut (ho : t.isOver = false) (ha : t.aborted = true) :
    StopStep s t s { t with phase := .over }
  | tell (hp : t.phase = .spawned) (ha : t.aborted = false) :
    StopStep s t (s.note (.stop t.component)) { t with
      phase := .stopping (Clock.after s.now t.component.stopPhase.delay) }
  | finish {due : Nat} (hp : t.phase = .stopping due)
    (ha : t.aborted = false) (hdue : due ≤ s.now) :
    StopStep s t (if t.component.stopPhase.ending = .success
      then s.note (.stopped t.component) else s) { t with phase := .over }

lemma StopTask.stopStep {σ : Type} {s s' : Site σ} {t t' : StopTask}
    (h : t.step s = some (s', t')) : StopStep s t s' t' := by
  rw [step] at h
  split at h
  · cases h
  · next ho =>
    split at h
    · next ha =>
      cases h
      exact .cut (Bool.eq_false_iff.2 ho) ha
    · next ha =>
      have ha := Bool.eq_false_iff.2 ha
      split at h
      · next hp =>
        cases h
        exact .tell hp ha
      · next due hp =>
        split at h
        · next hdue =>
          cases h
          exact .finish hp ha hdue
        · cases h
      · cases h

namespace StopStep

variable {σ : Type} {s s' : Site σ} {t t' : StopTask}

lemma isOver_eq (h : StopStep s t s' t') : t.isOver = false := by
  cases h with
  | cut ho => exact ho
  | tell hp | finish hp => simp [StopTask.isOver, hp]

lemma now_eq (h : StopStep s t s' t') : s'.now = s.now := by
  cases h with
  | cut | tell => rfl
  | finish => split <;> rfl

/-- No task cuts itself off. -/
lemma aborted_eq (h : StopStep s t s' t') : t'.aborted = t.aborted := by
  cases h <;> rfl

end StopStep

/-- Where a task is at a time. -/
inductive StopTask.Course (p : StopCall) (clock : Nat) (t : StopTask) :
    Prop where
  | spawned (hp : t.phase = .spawned) (ha : t.aborted = false)
    (hc : clock = p.now)
  | stopping (hp : t.phase = .stopping (p.due t.component))
    (hc : clock ≤ p.due t.component)
  | ended (hp : t.phase = .over) (hc : p.due t.component ≤ clock)
  | cutOff (hp : t.phase = .over) (ha : t.aborted = true)
    (hl : p.deadline < p.due t.component)

namespace StopTask.Course

variable {p : StopCall} {clock : Nat} {t : StopTask}

/-- Only at the time of the call a component was not told yet. -/
lemma now_eq (h : t.Course p clock) (hp : t.phase = .spawned) :
    clock = p.now := by
  cases h with
  | spawned _ _ hc => exact hc
  | stopping hp' | ended hp' | cutOff hp' =>
    rw [hp] at hp'
    cases hp'

/-- A task at work waits for the time of its component. -/
lemma due_eq {due : Nat} (h : t.Course p clock)
    (hp : t.phase = .stopping due) :
    due = p.due t.component ∧ clock ≤ due := by
  cases h with
  | stopping hp' hc =>
    rw [hp] at hp'
    obtain rfl := StopPhase.stopping.inj hp'
    exact ⟨rfl, hc⟩
  | spawned hp' | ended hp' | cutOff hp' =>
    rw [hp] at hp'
    cases hp'

/-- A task that is over has taken its time or was cut off. -/
lemma of_over (h : t.Course p clock) (ho : t.isOver = true) :
    p.due t.component ≤ clock
      ∨ t.aborted = true ∧ p.deadline < p.due t.component := by
  have hp : t.phase = .over := of_decide_eq_true ho
  cases h with
  | ended _ hc => exact .inl hc
  | cutOff _ ha hl => exact .inr ⟨ha, hl⟩
  | spawned hp' | stopping hp' =>
    rw [hp] at hp'
    cases hp'

end StopTask.Course

namespace StopCall

/-- Where the one who waits is at a time. -/
inductive WaitCourse (p : StopCall) (clock : Nat) (tasks : List StopTask) :
    ShutdownPhase → Prop where
  | draining (hc : clock ≤ p.returnTime)
    (ha : ∀ t ∈ tasks, t.aborted = false) :
    WaitCourse p clock tasks (.draining p.deadline)
  | terminating {graceEnd : Nat} (hl : p.lateCount ≠ 0)
    (ht : p.terminate = true) (hc : clock = p.deadline)
    (hlt : clock < graceEnd) (ha : ∀ t ∈ tasks, t.aborted = true) :
    WaitCourse p clock tasks (.terminating graceEnd)
  | inTime (hl : p.lateCount = 0) (ho : ∀ t ∈ tasks, t.isOver = true)
    (ha : ∀ t ∈ tasks, t.aborted = false) :
    WaitCourse p clock tasks (.finished (.ok ()))
  | terminated (hl : p.lateCount ≠ 0) (ht : p.terminate = true)
    (hc : p.deadline ≤ clock) (ho : ∀ t ∈ tasks, t.isOver = true) :
    WaitCourse p clock tasks (.finished (.ok ()))
  | gaveUp (hl : p.lateCount ≠ 0) (ht : p.terminate = false)
    (hc : p.deadline ≤ clock) (ha : ∀ t ∈ tasks, t.aborted = false) :
    WaitCourse p clock tasks
      (.finished (.error (.notTerminated p.lateCount p.timeout)))

/-- An entry stands at its time. -/
def EntryInTime (p : StopCall) (e : Entry) : Prop :=
  match e.event with
  | .stop _ => e.time = p.now
  | .stopped c => c ∈ p.components ∧ e.time = p.due c
    ∧ ¬ (p.terminate = true ∧ p.IsLate c)
  | _ => True

/-- How far a call is. -/
structure Underway (p : StopCall) (s : ShutdownSystem) : Prop where
  components : s.shutdown.components = p.components
  timeout : s.shutdown.timeout = p.timeout
  terminate : s.shutdown.terminate = p.terminate
  since : p.now ≤ s.site.now
  tasks : ∀ t ∈ s.shutdown.tasks, t.Course p s.site.now
  wait : p.WaitCourse s.site.now s.shutdown.tasks s.shutdown.phase
  entries : ∀ e ∈ s.site.journal, p.EntryInTime e
  prompt : s.shutdown.Prompt s.site.now s.site.journal.told

variable {p : StopCall} {s s' : ShutdownSystem} {t t' : StopTask}
  {site : Site Unit} {i : Nat}

/-- A call begins so. -/
lemma underway_begin (h : p.Regular) (hb : p.begin? = .ok s) :
    p.Underway s := by
  cases hd : Shutdown.begin? p.now p.components p.timeout p.terminate with
  | error e =>
    rw [begin?, hd] at hb
    cases hb
  | ok d =>
    rw [begin?, hd] at hb
    obtain rfl := Except.ok.inj hb
    have hprompt := Shutdown.Prompt.begin hd
    have hcomponents := Shutdown.components_begin hd
    obtain ⟨-, rfl⟩ := Shutdown.begin?_eq_ok hd
    refine ⟨hcomponents, rfl, rfl, Nat.le_refl _, ?_, ?_, ?_, hprompt⟩
    · intro t ht
      obtain ⟨c, -, rfl⟩ := List.mem_map.1 ht
      exact .spawned rfl rfl rfl
    · show p.WaitCourse _ _ (.draining (p.timeout.deadline p.now))
      rw [h.deadline_eq]
      refine .draining (Nat.le_add_right _ _) fun t ht => ?_
      obtain ⟨c, -, rfl⟩ := List.mem_map.1 ht
      rfl
    · intro e he
      cases he

/-- A task belongs to one of the components. -/
lemma Underway.component_mem (h : p.Underway s)
    (ht : t ∈ s.shutdown.tasks) : t.component ∈ p.components :=
  h.components ▸ List.mem_map_of_mem ht

/-! ### What follows for the tasks -/

namespace Underway

/-- Only a call that terminates has tasks cut off. -/
lemma terminate_of_aborted (h : p.Underway s) (ht : t ∈ s.shutdown.tasks)
    (ha : t.aborted = true) : p.terminate = true := by
  have hwait := h.wait
  generalize s.shutdown.phase = phase at hwait
  cases hwait with
  | terminating _ hterm | terminated _ hterm => exact hterm
  | draining _ hno | inTime _ _ hno | gaveUp _ _ _ hno =>
    rw [hno t ht] at ha
    cases ha

/-- A task that is cut off at work has run out of time. -/
lemma now_eq_of_aborted (h : p.Underway s) (ht : t ∈ s.shutdown.tasks)
    (ha : t.aborted = true) (ho : t.isOver = false) :
    s.site.now = p.deadline := by
  have hwait := h.wait
  generalize s.shutdown.phase = phase at hwait
  cases hwait with
  | terminating _ _ hc => exact hc
  | terminated _ _ _ hover =>
    rw [hover t ht] at ho
    cases ho
  | draining _ hno | inTime _ _ hno | gaveUp _ _ _ hno =>
    rw [hno t ht] at ha
    cases ha

/-- A late component is at work until it is cut off, if the call
terminates. -/
lemma not_late_of_finish (hr : p.Regular) (h : p.Underway s)
    (ht : t ∈ s.shutdown.tasks) (ho : t.isOver = false)
    (ha : t.aborted = false) (hdue : p.due t.component ≤ s.site.now) :
    ¬ (p.terminate = true ∧ p.IsLate t.component) := by
  rintro ⟨hterm, hlate⟩
  rw [hr.isLate_iff (h.component_mem ht)] at hlate
  have hwait := h.wait
  generalize s.shutdown.phase = phase at hwait
  cases hwait with
  | draining hc =>
    have := hr.returnTime_le
    omega
  | terminating _ _ _ _ hall =>
    rw [hall t ht] at ha
    cases ha
  | inTime _ hover | terminated _ _ _ hover =>
    rw [hover t ht] at ho
    cases ho
  | gaveUp _ hno =>
    rw [hno] at hterm
    cases hterm

/-- At the deadline the late components are still at work, and no
others. -/
lemma isOver_iff (hr : p.Regular) (h : p.Underway s)
    (hnow : s.site.now = p.deadline) (ht : t ∈ s.shutdown.tasks)
    (ha : t.aborted = false) :
    t.isOver = false ↔ p.IsLate t.component := by
  have hmem := h.component_mem ht
  have hne := hr.due_ne hmem
  have hpos := hr.now_lt_deadline
  rw [hr.isLate_iff hmem]
  cases h.tasks t ht with
  | spawned _ _ hc => omega
  | stopping hp hc =>
    have ho : t.isOver = false := by simp [StopTask.isOver, hp]
    exact iff_of_true ho (by omega)
  | ended hp hc =>
    have ho : t.isOver = true := by simp [StopTask.isOver, hp]
    exact iff_of_false (by simp [ho]) (by omega)
  | cutOff _ hcut =>
    rw [hcut] at ha
    cases ha

lemma remaining_eq (hr : p.Regular) (h : p.Underway s)
    (hnow : s.site.now = p.deadline)
    (ha : ∀ t ∈ s.shutdown.tasks, t.aborted = false) :
    s.shutdown.remaining = p.lateCount := by
  rw [lateCount_eq, ← h.components, Shutdown.components, List.countP_map,
    Shutdown.remaining]
  refine List.countP_congr fun t ht => ?_
  have hiff := h.isOver_iff hr hnow ht (ha t ht)
  rw [IsLate] at hiff
  rw [Bool.not_eq_true', hiff, Function.comp_apply]

/-- A task that is over and was not cut off has taken its time. -/
lemma due_le (h : p.Underway s) (ht : t ∈ s.shutdown.tasks)
    (ho : t.isOver = true) (ha : t.aborted = false) :
    p.due t.component ≤ s.site.now := by
  rcases (h.tasks t ht).of_over ho with hle | ⟨hcut, -⟩
  · exact hle
  · rw [hcut] at ha
    cases ha

/-- A task that is not over is in time. -/
lemma le_due (h : p.Underway s) (ht : t ∈ s.shutdown.tasks)
    (ho : t.isOver = false) : s.site.now ≤ p.due t.component := by
  cases h.tasks t ht with
  | spawned _ _ hc => exact hc ▸ Nat.le_add_right _ _
  | stopping _ hc => exact hc
  | ended hp | cutOff hp => simp [StopTask.isOver, hp] at ho

/-! ### Steps of the tasks -/

/-- A step leads a task along its course. -/
lemma course_step (hr : p.Regular) (h : p.Underway s)
    (ht : t ∈ s.shutdown.tasks) (hs : StopStep s.site t site t') :
    t'.Course p s.site.now := by
  have hcourse := h.tasks t ht
  cases hs with
  | cut ho ha =>
    have hnow := h.now_eq_of_aborted ht ha ho
    have hle := h.le_due ht ho
    have hne := hr.due_ne (h.component_mem ht)
    exact .cutOff rfl ha (show p.deadline < p.due t.component by omega)
  | tell hp ha =>
    have hc := hcourse.now_eq hp
    have hafter : Clock.after s.site.now t.component.stopPhase.delay
        = p.due t.component := by
      rw [hc, Clock.after, due, Component.stopTime]
    rw [hafter]
    exact .stopping rfl (hc ▸ Nat.le_add_right _ _)
  | finish hp ha hdue =>
    obtain ⟨rfl, -⟩ := hcourse.due_eq hp
    exact .ended rfl hdue

/-- A task that ends at work does so at its time, and is not late if the
call terminates. -/
lemma ends_of_finish {due : Nat} (hr : p.Regular) (h : p.Underway s)
    (ht : t ∈ s.shutdown.tasks) (hp : t.phase = .stopping due)
    (ha : t.aborted = false) (hdue : due ≤ s.site.now) :
    s.site.now = p.due t.component
      ∧ ¬ (p.terminate = true ∧ p.IsLate t.component) := by
  obtain ⟨rfl, hle⟩ := (h.tasks t ht).due_eq hp
  have ho : t.isOver = false := by simp [StopTask.isOver, hp]
  exact ⟨Nat.le_antisymm hle hdue, h.not_late_of_finish hr ht ho ha hdue⟩

/-- A step makes only entries that stand at their time. -/
lemma entries_step (hr : p.Regular) (h : p.Underway s)
    (ht : t ∈ s.shutdown.tasks) (hs : StopStep s.site t site t') :
    ∀ e ∈ site.journal, p.EntryInTime e := by
  cases hs with
  | cut => exact h.entries
  | tell hp =>
    exact List.forall_mem_cons.2 ⟨(h.tasks t ht).now_eq hp, h.entries⟩
  | finish hp ha hdue =>
    split
    · have hends := h.ends_of_finish hr ht hp ha hdue
      exact List.forall_mem_cons.2 ⟨⟨h.component_mem ht, hends⟩, h.entries⟩
    · exact h.entries

/-- A step of a task that is not over leaves the one who waits where it
is. -/
lemma wait_step (h : p.Underway s) (ht : s.shutdown.tasks[i]? = some t)
    (ho : t.isOver = false) (ha' : t'.aborted = t.aborted) :
    p.WaitCourse s.site.now (s.shutdown.tasks.set i t')
      s.shutdown.phase := by
  have hmem := List.mem_of_getElem? ht
  have hkeep : ∀ b, (∀ t ∈ s.shutdown.tasks, t.aborted = b) →
      ∀ t₁ ∈ s.shutdown.tasks.set i t', t₁.aborted = b := by
    intro b hb
    exact forall_mem_set hb (by rw [ha', hb t hmem]) i
  have hwait := h.wait
  generalize s.shutdown.phase = phase at hwait ⊢
  cases hwait with
  | draining hc ha => exact .draining hc (hkeep _ ha)
  | terminating hl hterm hc hlt ha =>
    exact .terminating hl hterm hc hlt (hkeep _ ha)
  | gaveUp hl hterm hc ha => exact .gaveUp hl hterm hc (hkeep _ ha)
  | inTime _ hover | terminated _ _ _ hover =>
    rw [hover t hmem] at ho
    cases ho

/-- A task takes a step. -/
lemma step_stop (hr : p.Regular) (h : p.Underway s)
    (hs : ShutdownSystem.step s (.stop i) = some s') : p.Underway s' := by
  obtain ⟨⟨site, d⟩, hstep, rfl⟩ := Option.map_eq_some_iff.1 hs
  have hcomponents := Shutdown.components_stepTask hstep
  obtain ⟨es, he, hprompt, -⟩ := h.prompt.stepTask hstep
  obtain ⟨t, ht, hrest⟩ := Option.bind_eq_some_iff.1 hstep
  obtain ⟨⟨site', t'⟩, htask, hd⟩ := Option.bind_eq_some_iff.1 hrest
  cases hd
  have hmem := List.mem_of_getElem? ht
  have hmove := StopTask.stopStep htask
  have hnow : site.now = s.site.now := hmove.now_eq
  refine ⟨hcomponents.trans h.components, h.timeout, h.terminate,
    hnow ▸ h.since, ?_, ?_, h.entries_step hr hmem hmove, ?_⟩
  · rw [hnow]
    exact forall_mem_set h.tasks (h.course_step hr hmem hmove) i
  · rw [hnow]
    exact h.wait_step ht hmove.isOver_eq hmove.aborted_eq
  · rw [hnow, he.told]
    exact hprompt

/-! ### Steps of the one who waits -/

/-- Tasks that are cut off when their time is over stay on their
course. -/
lemma course_abort (hr : p.Regular) (h : p.Underway s)
    (hnow : s.site.now = p.deadline) (ht : t ∈ s.shutdown.tasks) :
    { t with aborted := true }.Course p s.site.now := by
  have hpos := hr.now_lt_deadline
  cases h.tasks t ht with
  | spawned _ _ hc => omega
  | stopping hp hc => exact .stopping hp hc
  | ended hp hc => exact .ended hp hc
  | cutOff hp _ hl => exact .cutOff hp rfl hl

/-- All tasks are over before the time is, if none is late. -/
lemma lateCount_eq_zero_of_over (hr : p.Regular) (h : p.Underway s)
    (hc : s.site.now ≤ p.returnTime)
    (ho : ∀ t ∈ s.shutdown.tasks, t.isOver = true)
    (ha : ∀ t ∈ s.shutdown.tasks, t.aborted = false) : p.lateCount = 0 := by
  rw [lateCount_eq_zero, ← h.components]
  intro c hmem
  obtain ⟨t, ht, rfl⟩ := List.mem_map.1 hmem
  have hle := h.due_le ht (ho t ht) (ha t ht)
  have := hr.returnTime_le
  rw [hr.isLate_iff (h.component_mem ht)]
  omega

/-- The one who waits takes a step. -/
lemma wait_stepWait (hr : p.Regular) (h : p.Underway s) {d : Shutdown}
    (hs : s.shutdown.stepWait s.site.now = some d) :
    d.timeout = s.shutdown.timeout ∧ d.terminate = s.shutdown.terminate
      ∧ (∀ t ∈ d.tasks, t.Course p s.site.now)
      ∧ p.WaitCourse s.site.now d.tasks d.phase := by
  have hwait := h.wait
  rw [Shutdown.stepWait] at hs
  split at hs
  · next deadline hp =>
    rw [hp] at hwait
    cases hwait with
    | draining hc ha =>
      split at hs
      · next hrem =>
        obtain rfl := Option.some.inj hs
        have ho := Shutdown.remaining_eq_zero_iff.1 hrem
        exact ⟨rfl, rfl, h.tasks,
          .inTime (h.lateCount_eq_zero_of_over hr hc ho ha) ho ha⟩
      · next hrem =>
        split at hs
        · next hdue =>
          -- the clock does not pass the deadline unless the wait is over
          have hnow : s.site.now = p.deadline :=
            Nat.le_antisymm (hc.trans hr.returnTime_le) hdue
          have hcount := h.remaining_eq hr hnow ha
          have hl : p.lateCount ≠ 0 := hcount ▸ hrem
          split at hs
          · next hterm =>
            obtain rfl := Option.some.inj hs
            refine ⟨rfl, rfl, fun t ht => ?_, ?_⟩
            · obtain ⟨t₀, ht₀, rfl⟩ := List.mem_map.1 ht
              exact h.course_abort hr hnow ht₀
            · refine .terminating hl (h.terminate ▸ hterm) hnow
                (Span.lt_deadline (by decide)) fun t ht => ?_
              obtain ⟨t₀, -, rfl⟩ := List.mem_map.1 ht
              rfl
          · next hterm =>
            obtain rfl := Option.some.inj hs
            have hno : p.terminate = false :=
              h.terminate ▸ Bool.eq_false_iff.2 hterm
            refine ⟨rfl, rfl, h.tasks, ?_⟩
            rw [Shutdown.giveUp, hcount, h.timeout]
            exact .gaveUp hl hno (Nat.le_of_eq hnow.symm) ha
        · cases hs
  · next graceEnd hp =>
    rw [hp] at hwait
    cases hwait with
    | terminating hl hterm hc hlt ha =>
      split at hs
      · next hrem =>
        obtain rfl := Option.some.inj hs
        exact ⟨rfl, rfl, h.tasks, .terminated hl hterm
          (Nat.le_of_eq hc.symm) (Shutdown.remaining_eq_zero_iff.1 hrem)⟩
      · rw [if_neg (Nat.not_le.2 hlt)] at hs
        cases hs
  · cases hs

lemma step_wait (hr : p.Regular) (h : p.Underway s)
    (hs : ShutdownSystem.step s .wait = some s') : p.Underway s' := by
  obtain ⟨d, hstep, rfl⟩ := Option.map_eq_some_iff.1 hs
  obtain ⟨htimeout, hterm, htasks, hwait⟩ := h.wait_stepWait hr hstep
  exact {
    components := (Shutdown.components_stepWait hstep).trans h.components
    timeout := htimeout.trans h.timeout
    terminate := hterm.trans h.terminate
    since := h.since
    tasks := htasks
    wait := hwait
    entries := h.entries
    prompt := h.prompt.stepWait hstep }

/-! ### The clock -/

/-- No task can take a step. -/
lemma step_eq_none (hidle : ShutdownSystem.machine.Idle s)
    (ht : t ∈ s.shutdown.tasks) : t.step s.site = none := by
  obtain ⟨i, hi⟩ := List.mem_iff_getElem?.1 ht
  have hnone : ShutdownSystem.step s (.stop i) = none := hidle (.stop i)
  rw [ShutdownSystem.step, Option.map_eq_none_iff, Shutdown.stepTask, hi] at hnone
  cases hstep : t.step s.site with
  | none => rfl
  | some r => simp [hstep] at hnone

/-- The one who waits cannot take a step. -/
lemma stepWait_eq_none (hidle : ShutdownSystem.machine.Idle s) :
    s.shutdown.stepWait s.site.now = none := by
  have hnone : ShutdownSystem.step s .wait = none := hidle .wait
  rwa [ShutdownSystem.step, Option.map_eq_none_iff] at hnone

/-- Whoever waits and cannot go on has time left. -/
lemma lt_of_stepWait {d : Shutdown} {now deadline : Nat}
    (hp : d.phase = .draining deadline) (h : d.stepWait now = none) :
    now < deadline := by
  refine Nat.lt_of_not_le fun hle => ?_
  simp only [Shutdown.stepWait, hp, hle, if_true] at h
  split at h
  · cases h
  · split at h <;> cases h

/-- When no task can run, those that are not over are at work and not cut
off, and wake when they are due. -/
lemma atWork_of_idle (h : p.Underway s)
    (hidle : ShutdownSystem.machine.Idle s) (ht : t ∈ s.shutdown.tasks)
    (ho : t.isOver = false) : t.aborted = false
      ∧ p.due t.component ∈ s.shutdown.wakes
      ∧ s.site.now < p.due t.component := by
  have hnone := step_eq_none hidle ht
  cases h.tasks t ht with
  | spawned hp => exact absurd hnone (StopTask.exists_step s.site hp)
  | stopping hp hc =>
    rw [StopTask.step, ho, if_neg Bool.false_ne_true] at hnone
    have hwake : p.due t.component ∈ s.shutdown.wakes := by
      refine List.mem_append_right _ (List.mem_filterMap.2 ⟨t, ht, ?_⟩)
      rw [StopTask.wake?, hp]
    cases ha : t.aborted with
    | true => simp [ha] at hnone
    | false =>
      refine ⟨rfl, hwake, Nat.lt_of_not_le fun hdue => ?_⟩
      simp [ha, hp, hdue] at hnone
  | ended hp | cutOff hp => simp [StopTask.isOver, hp] at ho

/-- The one who waits has a task to wait for when no task can run. -/
lemma exists_atWork (hidle : ShutdownSystem.machine.Idle s)
    (hr : s.shutdown.result? = none) :
    ∃ t ∈ s.shutdown.tasks, t.isOver = false := by
  have hnone := stepWait_eq_none hidle
  have hrem : s.shutdown.remaining ≠ 0 := by
    intro hrem
    rw [Shutdown.result?] at hr
    rw [Shutdown.stepWait] at hnone
    split at hnone
    · simp [hrem] at hnone
    · simp [hrem] at hnone
    · next hp => simp [hp] at hr
  obtain ⟨t, ht, ho⟩ := List.countP_pos_iff.1 (Nat.pos_of_ne_zero hrem)
  exact ⟨t, ht, by simpa using ho⟩

/-- The clock moves to the next time at which somebody wakes. -/
lemma step_clock {w : Nat} (h : p.Underway s)
    (hidle : ShutdownSystem.machine.Idle s) (hlt : s.site.now < w)
    (hmin : ∀ w' ∈ s.shutdown.wakes, s.site.now < w' → w ≤ w') :
    p.Underway (ShutdownSystem.machine.setNow s w) := by
  have hdue : ∀ t ∈ s.shutdown.tasks, t.isOver = false →
      t.aborted = false ∧ w ≤ p.due t.component := by
    intro t ht ho
    obtain ⟨ha, hwake, hnow⟩ := h.atWork_of_idle hidle ht ho
    exact ⟨ha, hmin _ hwake hnow⟩
  refine ⟨h.components, h.timeout, h.terminate, h.since.trans hlt.le,
    fun t ht => ?_, ?_, h.entries, h.prompt.of_idle (s := s.site) ?_ w⟩
  · cases h.tasks t ht with
    | spawned hp =>
      exact absurd (step_eq_none hidle ht) (StopTask.exists_step s.site hp)
    | stopping hp =>
      exact .stopping hp (hdue t ht (by simp [StopTask.isOver, hp])).2
    | ended hp hc => exact .ended hp (hc.trans hlt.le)
    | cutOff hp ha hl => exact .cutOff hp ha hl
  · have hwait := h.wait
    have hatWork := exists_atWork hidle
    rw [Shutdown.result?] at hatWork
    show p.WaitCourse w s.shutdown.tasks s.shutdown.phase
    generalize hphase : s.shutdown.phase = phase at hwait hatWork ⊢
    cases hwait with
    | draining hc ha =>
      -- somebody is still at work, and the clock moves no further than to
      -- the time of this one
      refine .draining ?_ ha
      obtain ⟨t, ht, ho⟩ := hatWork rfl
      by_cases hl : p.lateCount = 0
      · exact (hdue t ht ho).2.trans
          (due_le_returnTime hl (h.component_mem ht))
      · rw [returnTime_of_late hl] at hc ⊢
        refine hmin _ ?_ (lt_of_stepWait hphase (stepWait_eq_none hidle))
        rw [Shutdown.wakes, hphase]
        exact List.mem_append_left _ (List.mem_singleton_self _)
    | terminating hl hterm hc hlt' ha =>
      obtain ⟨t, ht, ho⟩ := hatWork rfl
      have := (hdue t ht ho).1
      rw [ha t ht] at this
      cases this
    | inTime hl ho ha => exact .inTime hl ho ha
    | terminated hl hterm hc ho =>
      exact .terminated hl hterm (hc.trans hlt.le) ho
    | gaveUp hl hterm hc ha => exact .gaveUp hl hterm (hc.trans hlt.le) ha
  · intro i
    have hnone : ShutdownSystem.step s (.stop i) = none := hidle (.stop i)
    simpa [ShutdownSystem.step] using hnone

/-- Every step keeps it. -/
theorem step (hr : p.Regular) (h : p.Underway s)
    (hs : ShutdownSystem.machine.Step s s') : p.Underway s' := by
  cases hs with
  | run task hrun =>
    cases task with
    | stop i => exact h.step_stop hr hrun
    | wait => exact h.step_wait hr hrun
  | wait hidle _ hlt hmin => exact h.step_clock hidle hlt hmin

theorem of_runs (hr : p.Regular) (h : p.Underway s)
    (hs : ShutdownSystem.machine.Runs s s') : p.Underway s' := by
  induction hs with
  | refl => exact h
  | tail _ hstep ih => exact ih.step hr hstep

end Underway

end StopCall

end RemoteOps
