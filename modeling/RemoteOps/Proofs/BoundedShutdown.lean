/-
Stopping components takes a bounded time.

A call returns at the time that the stop times of its components decide,
and every component stops at its own time, unless it is late and the call
cuts it off.

* `StopCall.Underway.inevitable`: what comes neither too early nor too
  late comes at its time;
* `StopCall.Bounded`: what holds at any time of a call;
* `StopCall.bounded_of_begin`: components are refused, or they are
  stopped in a bounded time.
-/
import RemoteOps.Proofs.StopCall

namespace RemoteOps

namespace StopCall

variable {p : StopCall} {s s' : ShutdownSystem} {t t' : StopTask} {i : Nat}

namespace Underway

/-! ### What comes to be -/

/-- What cannot come too early and is not missed comes at its time. -/
lemma inevitable (Q : ShutdownSystem → Prop) (time : Nat)
    (hclock : ∀ s w, Q (ShutdownSystem.machine.setNow s w) → Q s)
    (hbefore : ∀ s, p.Underway s → ¬ Q s → s.site.now ≤ time)
    (hafter : ∀ s, p.Underway s → Q s → time ≤ s.site.now)
    (hlive : ∀ s, p.Underway s → ¬ Q s → ShutdownSystem.machine.Idle s →
      ∃ w ∈ s.shutdown.wakes, s.site.now < w)
    (hr : p.Regular) (h : p.Underway s) (hQ : ¬ Q s) :
    ShutdownSystem.machine.Inevitable
      (fun s => Q s ∧ s.site.now = time) s := by
  let m := ShutdownSystem.machine
  refine Machine.Inevitable.of_measure (fun s => s.shutdown.work)
    (I := fun s => p.Underway s ∧ (Q s → s.site.now = time))
    ?_ ?_ ?_ ?_ (fun _ _ => rfl) ⟨h, fun hQ' => absurd hQ' hQ⟩
  · -- `Q` comes to hold by a step of a task, and those leave the clock as
    -- it is
    rintro s s' ⟨h, htime⟩ hno hs
    have h' := h.step hr hs
    refine ⟨h', fun hQ' => ?_⟩
    have hQ : ¬ Q s := fun hQ => hno ⟨hQ, htime hQ⟩
    have hnow : s'.site.now = s.site.now := by
      cases hs with
      | run task hrun =>
        cases task with
        | stop i =>
          obtain ⟨⟨site, d⟩, hstep, rfl⟩ := Option.map_eq_some_iff.1 hrun
          obtain ⟨_, _, _, _, _, he, _⟩ := Shutdown.stepTask_cases hstep
          exact he.now
        | wait =>
          obtain ⟨d, -, rfl⟩ := Option.map_eq_some_iff.1 hrun
          rfl
      | wait => exact absurd (hclock _ _ hQ') hQ
    exact Nat.le_antisymm (hnow ▸ hbefore s h hQ) (hafter s' h' hQ')
  · rintro s ⟨h, htime⟩ hno hidle
    exact hlive s h (fun hQ => hno ⟨hQ, htime hQ⟩) hidle
  · rintro s ⟨-, -⟩ - w hw - hidle
    rcases Shutdown.exists_step_of_wake (s := { s.site with now := w }) hw
      rfl with hne | ⟨i, hne⟩
    · exact hne (stepWait_eq_none hidle)
    · have hnone : ShutdownSystem.step (m.setNow s w) (.stop i) = none :=
        hidle (.stop i)
      rw [ShutdownSystem.step, Option.map_eq_none_iff] at hnone
      exact hne hnone
  · rintro s task s' - - hrun
    cases task with
    | stop i =>
      obtain ⟨⟨site, d⟩, hstep, rfl⟩ := Option.map_eq_some_iff.1 hrun
      exact Shutdown.work_stepTask hstep
    | wait =>
      obtain ⟨d, hstep, rfl⟩ := Option.map_eq_some_iff.1 hrun
      exact Shutdown.work_stepWait hstep

/-- The call returns what it has to, when it has to. -/
lemma result (h : p.Underway s) {r : Except ShutdownError Unit}
    (hres : s.shutdown.result? = some r) :
    r = p.verdict ∧ p.returnTime ≤ s.site.now := by
  have hwait := h.wait
  have hback : ∀ t ∈ s.shutdown.tasks, t.isOver = true →
      t.aborted = false → p.due t.component ≤ s.site.now :=
    fun t ht ho ha => h.due_le ht ho ha
  rw [Shutdown.result?] at hres
  generalize s.shutdown.phase = phase at hwait hres
  cases hwait with
  | draining | terminating => cases hres
  | inTime hl ho ha =>
    obtain rfl := Option.some.inj hres
    refine ⟨?_, ?_⟩
    · rw [verdict, Shutdown.verdict, if_pos (.inl hl)]
    · rw [returnTime, Shutdown.duration, ← lateCount, if_pos hl]
      have hle : p.times.foldr max 0 ≤ s.site.now - p.now := by
        refine List.max_le_of_forall_le p.times _ fun d hd => ?_
        obtain ⟨c, hc, rfl⟩ := List.mem_map.1 hd
        rw [← h.components] at hc
        obtain ⟨t, ht, rfl⟩ := List.mem_map.1 hc
        have := hback t ht (ho t ht) (ha t ht)
        rw [due] at this
        omega
      have := h.since
      omega
  | terminated hl hterm hc =>
    obtain rfl := Option.some.inj hres
    refine ⟨?_, returnTime_of_late hl ▸ hc⟩
    rw [verdict, Shutdown.verdict, if_pos (.inr hterm)]
  | gaveUp hl hterm hc =>
    obtain rfl := Option.some.inj hres
    refine ⟨?_, returnTime_of_late hl ▸ hc⟩
    have hno : ¬ (p.lateCount = 0 ∨ p.terminate = true) := by
      simp [hl, hterm]
    rw [verdict, Shutdown.verdict, ← lateCount, if_neg hno]

/-- Until it returns, a call has time. -/
lemma waiting (h : p.Underway s) (hres : s.shutdown.result? = none) :
    s.site.now ≤ p.returnTime := by
  have hwait := h.wait
  rw [Shutdown.result?] at hres
  generalize s.shutdown.phase = phase at hwait hres
  cases hwait with
  | draining hc => exact hc
  | terminating hl _ hc => exact returnTime_of_late hl ▸ Nat.le_of_eq hc
  | inTime | terminated | gaveUp => cases hres

end Underway

/-! ### Bounded calls -/

/-- What holds at any time of a call that is not refused. -/
structure Bounded (p : StopCall) (s : ShutdownSystem) : Prop where
  /-- Each component has a task. -/
  components : s.shutdown.components = p.components
  /-- Components are told to stop when the call is made, each once. -/
  told : ∀ e ∈ s.site.journal, ∀ c, e.event = .stop c → e.time = p.now
  toldOnce : ∀ c, s.site.journal.told.count c ≤ p.components.count c
  toldAll : p.now < s.site.now ∨ s.shutdown.result?.isSome = true →
    s.site.journal.told.Perm p.components
  /-- The call returns its verdict at its time. -/
  waiting : s.shutdown.result? = none → s.site.now ≤ p.returnTime
  result : ∀ r, s.shutdown.result? = some r →
    r = p.verdict ∧ p.returnTime ≤ s.site.now
  /-- A task that is not cut off is over at the time of its component. -/
  atWork : ∀ t ∈ s.shutdown.tasks, t.isOver = false →
    s.site.now ≤ p.due t.component
  ended : ∀ t ∈ s.shutdown.tasks, t.isOver = true →
    ¬ (p.terminate = true ∧ p.IsLate t.component) →
    p.due t.component ≤ s.site.now
  /-- Tasks are cut off only by a call that terminates. -/
  spared : p.terminate = false →
    ∀ t ∈ s.shutdown.tasks, t.aborted = false
  /-- Such a call lets no late component end: after it was told to stop,
  its task does nothing until it is cut off. -/
  severed : p.terminate = true → ∀ t ∈ s.shutdown.tasks,
    p.IsLate t.component → t.step s.site ≠ none →
    t.phase = .spawned ∨ t.aborted = true
  /-- A component that says that it has stopped does so at its time, and
  no late one does so if the call terminates. -/
  stopped : ∀ e ∈ s.site.journal, ∀ c, e.event = .stopped c →
    c ∈ p.components ∧ e.time = p.due c
      ∧ ¬ (p.terminate = true ∧ p.IsLate c)
  /-- Nobody is at work when the call has succeeded. -/
  gone : s.shutdown.result? = some (.ok ()) →
    ∀ t ∈ s.shutdown.tasks, t.isOver = true
  /-- The late ones are when it has failed, until they have stopped. -/
  left : ∀ e, s.shutdown.result? = some (.error e) →
    s.site.now = p.returnTime → ∀ t ∈ s.shutdown.tasks,
      t.isOver = false ↔ p.IsLate t.component

namespace Underway

/-- Once the clock has moved or the call has returned, every component
has been told to stop. -/
lemma told_perm (h : p.Underway s)
    (htold : p.now < s.site.now ∨ s.shutdown.result?.isSome = true) :
    s.site.journal.told.Perm p.components := by
  have hno : ∀ t ∈ s.shutdown.tasks, t.phase ≠ .spawned := by
    rcases htold with hlt | hres
    · intro t ht hp
      have hnow := (h.tasks t ht).now_eq hp
      omega
    · exact h.prompt.ne_spawned_of_finished hres
  refine List.perm_iff_count.2 fun c => ?_
  rw [h.prompt.count_of_told hno, h.components]

/-- A task that is over has taken its time, unless it was cut off. -/
lemma due_le_of_not_severed (hr : p.Regular) (h : p.Underway s)
    (ht : t ∈ s.shutdown.tasks) (ho : t.isOver = true)
    (hno : ¬ (p.terminate = true ∧ p.IsLate t.component)) :
    p.due t.component ≤ s.site.now := by
  rcases (h.tasks t ht).of_over ho with hle | ⟨ha, hl⟩
  · exact hle
  · have hterm := h.terminate_of_aborted ht ha
    exact absurd ⟨hterm, (hr.isLate_iff (h.component_mem ht)).2 hl⟩ hno

/-- A task with a late component does not go on at work, if the call
terminates. -/
lemma severed (hr : p.Regular) (h : p.Underway s) (hterm : p.terminate = true)
    (ht : t ∈ s.shutdown.tasks) (hlate : p.IsLate t.component)
    (hstep : t.step s.site ≠ none) :
    t.phase = .spawned ∨ t.aborted = true := by
  obtain ⟨⟨site, t'⟩, hs⟩ := Option.ne_none_iff_exists'.1 hstep
  have hmove := StopTask.stopStep hs
  cases hmove with
  | cut _ ha => exact .inr ha
  | tell hp => exact .inl hp
  | finish hp ha hdue =>
    exact absurd ⟨hterm, hlate⟩ (h.ends_of_finish hr ht hp ha hdue).2

/-- A call that succeeds leaves nobody at work. -/
lemma isOver_of_ok (h : p.Underway s)
    (hres : s.shutdown.result? = some (.ok ())) :
    ∀ t ∈ s.shutdown.tasks, t.isOver = true := by
  have hwait := h.wait
  rw [Shutdown.result?] at hres
  generalize s.shutdown.phase = phase at hwait hres
  cases hwait with
  | draining | terminating | gaveUp => cases hres
  | inTime _ ho | terminated _ _ _ ho => exact ho

/-- A call that fails leaves the late components at work, and no
others. -/
lemma isOver_iff_of_error (hr : p.Regular) (h : p.Underway s)
    {e : ShutdownError} (hres : s.shutdown.result? = some (.error e))
    (hnow : s.site.now = p.returnTime) (ht : t ∈ s.shutdown.tasks) :
    t.isOver = false ↔ p.IsLate t.component := by
  have hwait := h.wait
  rw [Shutdown.result?] at hres
  generalize s.shutdown.phase = phase at hwait hres
  cases hwait with
  | draining | terminating | inTime | terminated => cases hres
  | gaveUp hl _ _ ha =>
    rw [returnTime_of_late hl] at hnow
    exact h.isOver_iff hr hnow ht (ha t ht)

lemma bounded (hr : p.Regular) (h : p.Underway s) : p.Bounded s := by
  refine {
    components := h.components
    told := fun e he c hc => ?_
    toldOnce := fun c => h.components ▸ h.prompt.count_le c
    toldAll := h.told_perm
    waiting := h.waiting
    result := fun r hres => h.result hres
    atWork := fun t ht ho => h.le_due ht ho
    ended := fun t ht ho hno => h.due_le_of_not_severed hr ht ho hno
    spared := fun hterm t ht => ?_
    severed := fun hterm t ht hlate hstep =>
      h.severed hr hterm ht hlate hstep
    stopped := fun e he c hc => ?_
    gone := h.isOver_of_ok
    left := fun e hres hnow t ht => h.isOver_iff_of_error hr hres hnow ht }
  · have hentry := h.entries e he
    rwa [EntryInTime, hc] at hentry
  · refine Bool.eq_false_iff.2 fun ha => ?_
    rw [h.terminate_of_aborted ht ha] at hterm
    cases hterm
  · have hentry := h.entries e he
    rwa [EntryInTime, hc] at hentry

/-- The call returns at its time. -/
lemma returns (hr : p.Regular) (h : p.Underway s)
    (hno : s.shutdown.result? = none) :
    ShutdownSystem.machine.Inevitable (fun s =>
      s.shutdown.result? = some p.verdict ∧ s.site.now = p.returnTime) s := by
  refine inevitable (fun s => s.shutdown.result? = some p.verdict)
    p.returnTime (fun _ _ hQ => hQ) (fun s h hQ => ?_)
    (fun s h hQ => (h.result hQ).2) (fun s h hQ hidle => ?_) hr h
    (by simp [hno])
  · cases hres : s.shutdown.result? with
    | none => exact h.waiting hres
    | some r => exact absurd ((h.result hres).1 ▸ hres) hQ
  · cases hres : s.shutdown.result? with
    | none => exact Shutdown.exists_wake hres (stepWait_eq_none hidle)
    | some r => exact absurd ((h.result hres).1 ▸ hres) hQ

lemma exists_task (h : p.Underway s) {c : Component}
    (hc : p.components[i]? = some c) :
    ∃ t, s.shutdown.tasks[i]? = some t ∧ t.component = c := by
  rw [← h.components, Shutdown.components, List.getElem?_map,
    Option.map_eq_some_iff] at hc
  exact hc

/-- A component that is not cut off stops at its time. -/
lemma ends (hr : p.Regular) (h : p.Underway s) {c : Component}
    (hc : p.components[i]? = some c)
    (hno : ¬ (p.terminate = true ∧ p.IsLate c)) (hover : ¬ s.IsOver i) :
    ShutdownSystem.machine.Inevitable
      (fun s => s.IsOver i ∧ s.site.now = p.due c) s := by
  have hwork : ∀ s, p.Underway s → ¬ s.IsOver i →
      ∃ t ∈ s.shutdown.tasks, t.component = c ∧ t.isOver = false := by
    intro s h hover
    obtain ⟨t, ht, rfl⟩ := h.exists_task hc
    refine ⟨t, List.mem_of_getElem? ht, rfl, Bool.eq_false_iff.2 fun ho => ?_⟩
    exact hover ⟨t, ht, ho⟩
  refine inevitable (fun s => s.IsOver i) (p.due c) (fun _ _ hQ => hQ)
    (fun s h hQ => ?_) (fun s h hQ => ?_) (fun s h hQ hidle => ?_) hr h
    hover
  · obtain ⟨t, ht, rfl, ho⟩ := hwork s h hQ
    exact h.le_due ht ho
  · obtain ⟨t, ht, rfl⟩ := h.exists_task hc
    obtain ⟨t', ht', ho⟩ := hQ
    obtain rfl := Option.some.inj (ht.symm.trans ht')
    exact h.due_le_of_not_severed hr (List.mem_of_getElem? ht) ho hno
  · obtain ⟨t, ht, rfl, ho⟩ := hwork s h hQ
    obtain ⟨-, hwake, hlt⟩ := h.atWork_of_idle hidle ht ho
    exact ⟨_, hwake, hlt⟩

end Underway

/-- A call begins with nothing done yet. -/
lemma begin?_cases (p : StopCall) :
    p.components = [] ∧ p.begin? = .error .noServices
      ∨ p.components ≠ [] ∧ p.timeout.isZero = true
        ∧ p.begin? = .error .invalidTimeout
      ∨ p.components ≠ [] ∧ p.timeout.isZero = false
        ∧ ∃ s, p.begin? = .ok s ∧ s.shutdown.result? = none
          ∧ ∀ i, ¬ s.IsOver i := by
  cases hd : Shutdown.begin? p.now p.components p.timeout p.terminate with
  | error e =>
    have hb : p.begin? = .error e := by
      rw [begin?, hd]
      rfl
    rcases Shutdown.begin?_eq_error.1 hd with ⟨hnil, rfl⟩ | ⟨hne, hz, rfl⟩
    · exact .inl ⟨hnil, hb⟩
    · exact .inr (.inl ⟨hne, hz, hb⟩)
  | ok d =>
    have hne : p.components ≠ [] := by
      intro hnil
      rw [Shutdown.begin?_eq_error.2 (.inl ⟨hnil, rfl⟩)] at hd
      cases hd
    obtain ⟨hz, rfl⟩ := Shutdown.begin?_eq_ok hd
    refine .inr (.inr ⟨hne, hz, _, by rw [begin?, hd]; rfl, rfl, ?_⟩)
    rintro i ⟨t, ht, ho⟩
    rw [List.getElem?_map, Option.map_eq_some_iff] at ht
    obtain ⟨c, -, rfl⟩ := ht
    cases ho

/-- Nothing is begun without components or without time.  Otherwise every
component is told to stop at once, and what is returned, and when, depends
on their stop times alone: it is the verdict, when the last component has
stopped or the time is over.  Every component stops at its own time, but
the late ones, which a call that terminates cuts off. -/
theorem bounded_of_begin (p : StopCall)
    (hinRange : p.timeout.ceilMillis ≤ Clock.longestWait)
    (hapart : ∀ c ∈ p.components, c.stopTime ≠ p.timeout.ceilMillis) :
    (p.components = [] → p.begin? = .error .noServices)
      ∧ (p.components ≠ [] → p.timeout.isZero = true →
        p.begin? = .error .invalidTimeout)
      ∧ (p.components ≠ [] → p.timeout.isZero = false →
        ∃ s₀, p.begin? = .ok s₀
          ∧ (∀ s, ShutdownSystem.machine.Runs s₀ s → p.Bounded s)
          ∧ ShutdownSystem.machine.Inevitable (fun s =>
            s.shutdown.result? = some p.verdict
              ∧ s.site.now = p.returnTime) s₀
          ∧ ∀ i c, p.components[i]? = some c →
            ¬ (p.terminate = true ∧ p.IsLate c) →
            ShutdownSystem.machine.Inevitable
              (fun s => s.IsOver i ∧ s.site.now = p.due c) s₀) := by
  rcases p.begin?_cases with ⟨hnil, hb⟩ | ⟨hne, hz, hb⟩
    | ⟨hne, hz, s₀, hb, hres, hover⟩
  · exact ⟨fun _ => hb, fun hne => absurd hnil hne,
      fun hne => absurd hnil hne⟩
  · refine ⟨fun hnil => absurd hnil hne, fun _ _ => hb, fun _ hz' => ?_⟩
    rw [hz] at hz'
    cases hz'
  · refine ⟨fun hnil => absurd hnil hne, fun _ hz' => ?_, fun _ _ => ?_⟩
    · rw [hz] at hz'
      cases hz'
    · have hr : p.Regular := ⟨hz, hinRange, hapart⟩
      have h : p.Underway s₀ := underway_begin hr hb
      refine ⟨s₀, hb, fun s hs => (h.of_runs hr hs).bounded hr,
        h.returns hr hres, fun i c hc hno => ?_⟩
      exact h.ends hr hc hno (hover i)

/-- Components of which one stops, one panics and one fails late. -/
def mixedEndings : StopCall where
  now := 7
  components := [
    { uid := 0, name := "clock", stopPhase := { delay := 20 } },
    { uid := 1, name := "radio",
      stopPhase := { delay := 30, ending := .panic } },
    { uid := 2, name := "disk",
      stopPhase := { delay := 500, ending := .failure "busy" } }]
  timeout := .ofMillis 100
  terminate := false

theorem bounded_mixedEndings :
    mixedEndings.verdict = .error (.notTerminated 1 (.ofMillis 100))
      ∧ mixedEndings.returnTime = 107
      ∧ ∃ s₀, mixedEndings.begin? = .ok s₀
        ∧ (∀ s, ShutdownSystem.machine.Runs s₀ s → mixedEndings.Bounded s)
        ∧ ShutdownSystem.machine.Inevitable (fun s =>
          s.shutdown.result? = some mixedEndings.verdict
            ∧ s.site.now = mixedEndings.returnTime) s₀
        ∧ ShutdownSystem.machine.Inevitable
          (fun s => s.IsOver 2 ∧ s.site.now = 507) s₀ := by
  obtain ⟨-, -, hbegin⟩ :=
    bounded_of_begin mixedEndings (by decide) (by decide)
  obtain ⟨s₀, hb, hall, hreturns, hends⟩ := hbegin (by decide) (by decide)
  exact ⟨by decide, by decide, s₀, hb, hall, hreturns,
    hends 2 _ rfl (by decide)⟩

end StopCall

end RemoteOps
