/-
A worker that is told to stop.

The loop ends its present cycle and exits, at the instant at which the
cycle ends; whoever told the worker to stop goes on after that.

* `WorkerSystem.Held`: a worker whose owner holds on to it;
* `WorkerSystem.Afterwards`: what can come of a worker that is not
  started again;
* `WorkerSystem.Quitting`: the invariant of a worker that was told to
  stop;
* `WorkerSystem.graceful_of_stop`: what callers, the journal and the clock
  show of it.
-/
import RemoteOps.Proofs.Platform.Hosted
import RemoteOps.Proofs.Worker.Trace

namespace RemoteOps

namespace WorkerSystem

variable {σ : Type} {p : Platform σ} {site : Site σ} {table : HandlerTable}
  {interval : Span} {s s' s₀ : WorkerSystem σ} {before cur : List Event}

/-- Replaces the state of the platform, as the world outside does. -/
def withWorld (s : WorkerSystem σ) (world : σ) : WorkerSystem σ :=
  { s with site := { s.site with world } }

/-- A worker whose owner holds on to it.  Every start finds that nobody
waits any more; the state of the platform and the clock change in any
way. -/
inductive Held (p : Platform σ) (site : Site σ) (table : HandlerTable)
    (interval : Span) : WorkerSystem σ → Prop where
  | new : Held p site table interval
    { site, worker := .new table interval }
  | move {s s' : WorkerSystem σ} (h : Held p site table interval s)
    (hm : Move p NobodyWaits s s') (hr : s'.released = false) :
    Held p site table interval s'
  | outside {s : WorkerSystem σ} (h : Held p site table interval s)
    (world : σ) : Held p site table interval (s.withWorld world)

/-- What can come of a worker that is neither started nor aborted. -/
inductive Afterwards (p : Platform σ) (s : WorkerSystem σ) :
    WorkerSystem σ → Prop where
  | refl : Afterwards p s s
  | step {s' s'' : WorkerSystem σ} (h : Afterwards p s s')
    (hs : (machine p).Step s' s'') : Afterwards p s s''
  | stop {s' : WorkerSystem σ} (h : Afterwards p s s') :
    Afterwards p s s'.stop
  | clock {s' : WorkerSystem σ} (h : Afterwards p s s') (now : Nat) :
    Afterwards p s (s'.setNow now)
  | outside {s' : WorkerSystem σ} (h : Afterwards p s s') (world : σ) :
    Afterwards p s (s'.withWorld world)

lemma Afterwards.of_runs (h : (machine p).Runs s s') :
    Afterwards p s s' := by
  induction h with
  | refl => exact .refl
  | tail _ hs ih => exact ih.step hs

/-! ### Before the first stop -/

/-- The state of a worker that is held: which table it has, which calls
are open, and what its loop has done. -/
structure IsTraced (table : HandlerTable) (before cur : List Event)
    (s : WorkerSystem σ) : Prop where
  table : s.worker.table = table
  engaged : s.worker.Engaged s.callers
  traced : s.worker.Traced before cur s.site

lemma calls_noteReturn (site : Site σ) (i : Nat) (h : Halt) :
    (noteReturn site i h).journal.calls = site.journal.calls := by
  rw [noteReturn]
  split
  · exact Journal.calls_cons_of_not_isCall rfl _
  · rfl

/-- Steps of tasks, unless the worker is destroyed. -/
lemma IsTraced.stepTask {t : WorkerTask} (hs : step p s t = some s')
    (hr : s'.released = false) (h : IsTraced table before cur s) :
    ∃ before' cur', IsTraced table before' cur' s' := by
  obtain ⟨rfl, he, ht⟩ := h
  cases step_cases hs with
  | loop hl =>
    have he' := he.stepLoop hl
    have htab := Worker.table_stepLoop hl
    rcases ht.stepLoop he.one.earlier hl with ⟨es, ht'⟩
      | ⟨-, -, es, -, ht'⟩ | ⟨-, -, ht'⟩ <;> exact ⟨_, _, htab, he', ht'⟩
  | call hc =>
    have he' := he.stepCall hc
    have htab := Worker.table_stepCall hc
    rcases ht.stepCall he hc with ⟨es, ht'⟩ | ⟨-, es, ht'⟩ <;>
      exact ⟨_, _, htab, he', ht'⟩
  | caller hc hw =>
    have hsame := Worker.SameTasks.resume hw
    exact ⟨before, cur, hsame.table, he.resume hc hw,
      ht.congr (calls_noteReturn _ _ _) hsame⟩
  | destroy hrel => cases hr.symm.trans hrel

/-- The time does not matter. -/
lemma IsTraced.clock (h : IsTraced table before cur s) (now : Nat) :
    IsTraced table before cur (s.setNow now) :=
  ⟨h.table, h.engaged, h.traced.calls, h.traced.inCycle⟩

/-- All moves, as long as the owner holds on to the worker. -/
lemma IsTraced.move (hm : Move p NobodyWaits s s')
    (hr : s'.released = false) (h : IsTraced table before cur s) :
    ∃ before' cur', IsTraced table before' cur' s' := by
  cases hm with
  | step hs =>
    cases hs with
    | run t ht => exact h.stepTask ht hr
    | wait => exact ⟨before, cur, h.clock _⟩
  | start hm hs =>
    obtain ⟨w, hw, rfl⟩ := Option.map_eq_some_iff.1 hs
    obtain ⟨htab, hphases, -⟩ := Worker.tasks_start? hw
    have hph : w.phase = .spawned := by
      rw [Worker.phase_eq, hphases, List.getLast?_concat]
      rfl
    refine ⟨before ++ cur, [], htab.trans h.table, h.engaged.start hm hw,
      ?_, ?_⟩
    · rw [List.append_nil]
      exact h.traced.calls
    · show InCycle w.table w.cores [] w.phase
      rw [hph]
      rfl
  | stop =>
    have hsame := Worker.SameTasks.beginStop s.worker
    exact ⟨before, cur, hsame.table.trans h.table, h.engaged.beginStop,
      h.traced.congr (calls_noteReturn _ _ _) hsame⟩
  | abort =>
    have hsame := Worker.SameTasks.beginAbort s.worker
    exact ⟨before, cur, hsame.table.trans h.table, h.engaged.beginAbort,
      h.traced.congr (calls_noteReturn _ _ _) hsame⟩
  | release => cases hr
  | clock now => exact ⟨before, cur, h.clock now⟩

/-- A new worker has made no call. -/
lemma isTraced_new (site : Site σ) (table : HandlerTable)
    (interval : Span) : IsTraced table site.journal.calls []
      { site, worker := .new table interval } :=
  ⟨rfl, .new table interval, (List.append_nil _).symm, .inl rfl⟩

/-- The state of the platform does not matter. -/
lemma IsTraced.withWorld (h : IsTraced table before cur s) (world : σ) :
    IsTraced table before cur (s.withWorld world) :=
  ⟨h.table, h.engaged, h.traced.calls, h.traced.inCycle⟩

/-- A worker that is held has no call open without need, and its journal
shows its cycles. -/
lemma Held.isTraced (h : Held p site table interval s) :
    ∃ before cur, IsTraced table before cur s := by
  induction h with
  | new => exact ⟨_, _, isTraced_new site table interval⟩
  | move _ hm hr ih =>
    obtain ⟨before, cur, ih⟩ := ih
    exact ih.move hm hr
  | outside _ world ih =>
    obtain ⟨before, cur, ih⟩ := ih
    exact ⟨before, cur, ih.withWorld world⟩

lemma Held.released (h : Held p site table interval s) :
    s.released = false := by
  induction h with
  | new => rfl
  | move _ _ hr => exact hr
  | outside _ _ ih => exact ih

/-- No task lets go of the worker. -/
lemma released_of_step (hs : (machine p).Step s s') :
    s'.released = s.released := by
  cases hs with
  | run t ht => cases step_cases ht <;> rfl
  | wait => rfl

lemma Held.step (h : Held p site table interval s)
    (hs : (machine p).Step s s') : Held p site table interval s' :=
  h.move (.step hs) ((released_of_step hs).trans h.released)

/-! ### After the first stop -/

/-- A worker that was told to stop when it had some callers and its loop
had made some calls. -/
structure Quitting (table : HandlerTable) (callers : Nat)
    (before cur : List Event) (s : WorkerSystem σ) : Prop where
  table : s.worker.table = table
  engaged : s.worker.Engaged s.callers
  released : s.released = false
  running : s.worker.running = false
  /-- The loop has not seen the last signal yet. -/
  awake : ∀ l, s.worker.loops.getLast? = some l → l.phase ≠ .exited →
    l.seen < s.worker.signals
  stops : ∀ c ∈ s.callers, c = .returned ∨ ∃ i, c = .awaitingExit i
  returned : ∀ k, callers ≤ k → s.callers[k]? = some .returned →
    s.worker.phase = .exited
  traced : ∃ es, s.worker.Traced before (cur ++ es) s.site

/-- A stop, be it the first one or not. -/
lemma quitting_stop {callers : Nat} (htab : s.worker.table = table)
    (he : s.worker.Engaged s.callers) (hr : s.released = false)
    (hstops : ∀ c ∈ s.callers, c = .returned ∨ ∃ i, c = .awaitingExit i)
    (hreturned : ∀ k, callers ≤ k → s.callers[k]? = some .returned →
      s.worker.phase = .exited)
    (htraced : ∃ es, s.worker.Traced before (cur ++ es) s.site) :
    Quitting table callers before cur s.stop := by
  obtain ⟨es, ht⟩ := htraced
  have hsame := Worker.SameTasks.beginStop s.worker
  have hphase := Worker.phase_congr hsame.phases
  obtain ⟨heq, hc⟩ := s.worker.beginStop_eq
  exact {
    table := hsame.table.trans htab
    engaged := he.beginStop
    released := hr
    running := by
      show s.worker.beginStop.1.running = false
      rw [heq]
    awake := fun l hl _ => by
      have hl' : s.worker.beginStop.1.loops.getLast? = some l := hl
      show l.seen < s.worker.beginStop.1.signals
      rw [heq] at hl' ⊢
      exact Nat.lt_succ_of_le (he.seen l hl')
    stops := fun d hd => by
      rcases List.mem_append.1 hd with hd | hd
      · exact hstops d hd
      · rw [List.mem_singleton.1 hd]
        exact hc.imp_left (·.1)
    returned := fun k hk hret => by
      show s.worker.beginStop.1.phase = .exited
      rw [hphase]
      by_cases hlt : k < s.callers.length
      · refine hreturned k hk ?_
        rw [← hret]
        exact (List.getElem?_append_left hlt).symm
      · rcases hc with ⟨-, hnil⟩ | ⟨i, hi⟩
        · exact Worker.phase_of_forall_exited (by simp [hnil])
        · have hmem : s.stop.callers[k]? = some .returned := hret
          rw [callers_stop, List.getElem?_append_right (Nat.not_lt.1 hlt),
            hi] at hmem
          cases List.mem_singleton.1 (List.mem_of_getElem? hmem)
    traced := ⟨es, ht.congr (calls_noteReturn _ _ _) hsame⟩ }

/-- The first stop. -/
lemma IsTraced.stop (h : IsTraced table before cur s)
    (hw : s.NobodyWaits) (hr : s.released = false) :
    Quitting table s.callers.length before cur s.stop := by
  refine quitting_stop h.table h.engaged hr (fun c hc => .inl (hw c hc))
    (fun k hk hret => ?_) ⟨[], by rw [List.append_nil]; exact h.traced⟩
  rw [List.getElem?_eq_none hk] at hret
  cases hret

namespace Quitting

variable {callers : Nat} (h : Quitting table callers before cur s)

include h

/-- Nobody aborts. -/
lemma not_mem_abortingLoop (i : Nat) : .abortingLoop i ∉ s.callers := by
  intro hi
  rcases h.stops _ hi with hc | ⟨k, hc⟩ <;> cases hc

lemma not_mem_abortingCall (n : Nat) : .abortingCall n ∉ s.callers := by
  intro hn
  rcases h.stops _ hn with hc | ⟨k, hc⟩ <;> cases hc

lemma not_aborted {l : PollLoop} (hl : s.worker.loops.getLast? = some l)
    (hne : l.phase ≠ .exited) : l.aborted = false := by
  by_contra ha
  obtain ⟨i, hi⟩ := h.engaged.aborted l hl hne (by simpa using ha)
  exact h.not_mem_abortingLoop i hi

lemma stepLoop {i : Nat} {site : Site σ} {w : Worker}
    (hs : Worker.stepLoop p s.site s.worker i = some (site, w)) :
    Quitting table callers before cur { s with site, worker := w } := by
  obtain ⟨l, hl, hne, hcases⟩ := Worker.stepLoop_cases hs
  obtain ⟨hlast, hlen⟩ :=
    Worker.getLast?_of_live h.engaged.one.earlier hl hne
  have hph := Worker.phase_of_getLast? hlast
  have ha := h.not_aborted hlast hne
  obtain ⟨es₀, ht⟩ := h.traced
  have htraced : ∃ es, w.Traced before (cur ++ es) site := by
    rcases ht.stepLoop h.engaged.one.earlier hs with ⟨es, ht'⟩
      | ⟨hrun, -⟩ | ⟨⟨l', hl', ha'⟩, -⟩
    · exact ⟨es₀ ++ es, by rwa [← List.append_assoc]⟩
    · rw [h.running] at hrun
      cases hrun
    · rw [hlast, Option.some.injEq] at hl'
      rw [← hl', ha] at ha'
      cases ha'
  rcases hcases with ⟨ha', -⟩ | ⟨-, es, w₁, seen, ph, hm, -, hseen, rfl⟩
  · rw [ha] at ha'
    cases ha'
  · obtain ⟨hloops, -, hsig, hrun, htab⟩ := Worker.loops_of_loopMove hm
    have hlast' := Worker.getLast?_setLoop (hloops ▸ hlen)
      { l with seen } ph
    exact {
      table := htab.trans h.table
      engaged := h.engaged.stepLoop hs
      released := h.released
      running := hrun.trans h.running
      awake := fun l' hl' hne' => by
        rw [hlast', Option.some.injEq] at hl'
        subst hl'
        show seen < w₁.signals
        rw [hsig]
        rcases hseen with rfl | ⟨-, ⟨hr, -⟩ | ⟨-, hex⟩⟩
        · exact h.awake l hlast hne
        · rw [h.running] at hr
          cases hr
        · exact absurd hex hne'
      stops := h.stops
      returned := fun k hk hc => by
        rw [h.returned k hk hc] at hph
        exact absurd hph.symm hne
      traced := htraced }

lemma stepCall {i : Nat} {site : Site σ} {w : Worker}
    (hs : Worker.stepCall p s.site s.worker i = some (site, w)) :
    Quitting table callers before cur { s with site, worker := w } := by
  obtain ⟨c, es, ph, hc, hm, -, rfl⟩ := Worker.stepCall_cases hs
  have hlive : s.worker.phase ≠ .exited := fun hex => by
    have hover := h.engaged.isOver_of_exited hex h.not_mem_abortingLoop
      h.not_mem_abortingCall c (List.mem_of_getElem? hc)
    rw [hm.isOver] at hover
    cases hover
  obtain ⟨es₀, ht⟩ := h.traced
  exact { h with
    engaged := h.engaged.stepCall hs
    traced := by
      rcases ht.stepCall h.engaged hs with ⟨es, ht'⟩ | ⟨hex, -⟩
      · exact ⟨es₀ ++ es, by rwa [← List.append_assoc]⟩
      · exact absurd hex hlive }

lemma stepCaller {i : Nat} {c c' : Halt} {w : Worker}
    (hc : s.callers[i]? = some c) (hw : s.worker.resume c = some (w, c')) :
    Quitting table callers before cur { s with
      site := noteReturn s.site i c'
      worker := w
      callers := s.callers.set i c' } := by
  have hsame := Worker.SameTasks.resume hw
  have hengaged := h.engaged.resume hc hw
  obtain ⟨hall, -⟩ := h.engaged.one.resume (List.mem_of_getElem? hc) hw
  obtain ⟨es, ht⟩ := h.traced
  rcases h.stops c (List.mem_of_getElem? hc) with rfl | ⟨k, rfl⟩
  · cases hw
  · cases Worker.resume_cases hw with
    | stopped =>
      exact {
        table := h.table
        engaged := hengaged
        released := h.released
        running := h.running
        awake := h.awake
        stops := forall_mem_set h.stops (.inl rfl) _
        returned := fun _ _ _ => Worker.phase_of_forall_exited hall
        traced := ⟨es, ht.congr (calls_noteReturn _ _ _) hsame⟩ }

lemma step (hs : (machine p).Step s s') :
    Quitting table callers before cur s' := by
  cases hs with
  | wait =>
    obtain ⟨es, ht⟩ := h.traced
    exact { h with traced := ⟨es, ht.calls, ht.inCycle⟩ }
  | run t ht =>
    cases step_cases ht with
    | loop hl => exact h.stepLoop hl
    | call hc => exact h.stepCall hc
    | caller hc hw => exact h.stepCaller hc hw
    | destroy hrel => cases h.released.symm.trans hrel

end Quitting

lemma Quitting.afterwards {callers : Nat} (hs : Afterwards p s s')
    (h : Quitting table callers before cur s) :
    Quitting table callers before cur s' := by
  induction hs with
  | refl => exact h
  | step _ hs ih => exact ih.step hs
  | stop _ ih =>
    exact quitting_stop ih.table ih.engaged ih.released ih.stops
      ih.returned ih.traced
  | clock _ _ ih | outside _ _ ih =>
    obtain ⟨es, ht⟩ := ih.traced
    exact { ih with traced := ⟨es, ht.calls, ht.inCycle⟩ }

/-! ### Between two cycles -/

namespace Quitting

variable {callers : Nat} (h : Quitting table callers before cur s)

include h

/-- A loop between two cycles exits without a call. -/
lemma rests_stepLoop {i : Nat} {site : Site σ} {w : Worker}
    (hs : Worker.stepLoop p s.site s.worker i = some (site, w))
    (hr : s.worker.phase.IsResting) :
    w.phase = .exited ∧ site.journal.calls = s.site.journal.calls := by
  obtain ⟨l, hl, hne, hcases⟩ := Worker.stepLoop_cases hs
  obtain ⟨hlast, hlen⟩ :=
    Worker.getLast?_of_live h.engaged.one.earlier hl hne
  rw [Worker.phase_of_getLast? hlast] at hr
  rcases hcases with ⟨-, rfl, rfl⟩ | ⟨-, es, w₁, seen, ph, hm, hg, -, rfl⟩
  · exact ⟨Worker.phase_of_getLast? (Worker.getLast?_setLoop hlen l .exited),
      rfl⟩
  · obtain ⟨hloops, -⟩ := Worker.loops_of_loopMove hm
    have hph := Worker.phase_of_getLast?
      (Worker.getLast?_setLoop (hloops ▸ hlen) { l with seen } ph)
    have hexited : s.worker.Renews ph → ph = .exited := by
      rintro (⟨hrun, -⟩ | ⟨-, hex⟩)
      · rw [h.running] at hrun
        cases hrun
      · exact hex
    generalize l.phase = ph₀ at hm hr
    cases hm with
    | begin hrn | wake hrn =>
      exact ⟨hph.trans (hexited hrn), by rw [hg.calls, List.append_nil]⟩
    | pollFailed | nothing | refuse _ | reject _ | accept _ | rejected _
    | claimed | unclaimed | conclude _ _ | reported _ => exact hr.elim

/-- While the loop rests, no call is open. -/
lemma isOver_of_resting (hr : s.worker.phase.IsResting) :
    ∀ c ∈ s.worker.calls, c.isOver = true := by
  intro c hc
  obtain ⟨n, hn⟩ := List.mem_iff_getElem?.1 hc
  by_contra ho
  rcases h.engaged.open_call n c hn (by simpa using ho) with hf | ha
  · rcases h.engaged.in_flight n hf with ⟨o, hph⟩ | ⟨-, i, hi⟩
    · rw [hph] at hr
      exact hr
    · exact h.not_mem_abortingLoop i hi
  · exact h.not_mem_abortingCall n ha

/-- A worker whose loop rests makes no further call. -/
lemma rests_step (hs : (machine p).Step s s')
    (hr : s.worker.phase.IsResting) : s'.worker.phase.IsResting
      ∧ s'.site.journal.calls = s.site.journal.calls := by
  cases hs with
  | wait => exact ⟨hr, rfl⟩
  | run t ht =>
    cases step_cases ht with
    | @loop i site w hl =>
      obtain ⟨hex, hcalls⟩ := h.rests_stepLoop hl hr
      refine ⟨?_, hcalls⟩
      show w.phase.IsResting
      rw [hex]
      trivial
    | call hc =>
      obtain ⟨c, es, ph, hget, hm, -, rfl⟩ := Worker.stepCall_cases hc
      have hover := h.isOver_of_resting hr c (List.mem_of_getElem? hget)
      rw [hm.isOver] at hover
      cases hover
    | @caller i c c' w hc hw =>
      refine ⟨?_, calls_noteReturn _ _ _⟩
      show w.phase.IsResting
      rw [Worker.phase_congr (Worker.SameTasks.resume hw).phases]
      exact hr
    | destroy hrel => cases h.released.symm.trans hrel

omit h in
lemma rests_afterwards (hs : Afterwards p s s')
    (h : Quitting table callers before cur s)
    (hr : s.worker.phase.IsResting) : s'.worker.phase.IsResting
      ∧ s'.site.journal.calls = s.site.journal.calls := by
  induction hs with
  | refl => exact ⟨hr, rfl⟩
  | step hs hstep ih =>
    obtain ⟨hr', hcalls⟩ := (h.afterwards hs).rests_step hstep ih.1
    exact ⟨hr', hcalls.trans ih.2⟩
  | @stop s₁ hs ih =>
    refine ⟨?_, (calls_noteReturn _ _ _).trans ih.2⟩
    show s₁.worker.beginStop.1.phase.IsResting
    rw [Worker.phase_congr (Worker.SameTasks.beginStop _).phases]
    exact ih.1
  | clock _ _ ih | outside _ _ ih => exact ih

/-- A loop between two cycles can exit at once. -/
lemma exists_step (hr : s.worker.phase.IsResting)
    (hne : s.worker.phase ≠ .exited) :
    ∃ s', WorkerSystem.step p s (.loop (s.worker.loops.length - 1)) = some s'
      ∧ s'.site = s.site ∧ s'.worker.phase = .exited := by
  cases hlast : s.worker.loops.getLast? with
  | none =>
    rw [Worker.phase, hlast] at hne
    exact absurd rfl hne
  | some l =>
    set n := s.worker.loops.length - 1 with hn
    have hget : s.worker.loops[n]? = some l := by
      rw [← hlast, List.getLast?_eq_getElem?]
    have hlen : n + 1 = s.worker.loops.length := by
      have := (List.getElem?_eq_some_iff.1 hget).1
      omega
    have hph := Worker.phase_of_getLast? hlast
    rw [hph] at hr hne
    have hnext : Worker.nextCycle p s.site s.worker = .exited := by
      rw [Worker.nextCycle, h.running, if_neg Bool.false_ne_true]
    have hover : l.isOver = false := by simpa [PollLoop.isOver] using hne
    obtain ⟨l', hrun⟩ : ∃ l', Worker.runLoop p s.site s.worker n l
        = some (s.site, s.worker.setLoop n l' .exited) := by
      cases hl : l.phase with
      | spawned => exact ⟨l, by simp only [Worker.runLoop, hl, hnext]⟩
      | idle due =>
        refine ⟨{ l with seen := s.worker.signals }, ?_⟩
        have hawake : s.worker.signals ≠ l.seen :=
          (Nat.ne_of_lt (h.awake l hlast hne)).symm
        simp only [Worker.runLoop, hl, hnext, hawake, ne_eq,
          not_false_eq_true, decide_true, Bool.or_true, if_true]
      | exited => exact absurd hl hne
      | polling | rejecting | claiming | executing | reporting =>
        rw [hl] at hr
        exact hr.elim
    refine ⟨{ s with worker := s.worker.setLoop n l' .exited }, ?_, rfl,
      Worker.phase_of_getLast? (Worker.getLast?_setLoop hlen l' .exited)⟩
    have hstep : Worker.stepLoop p s.site s.worker n
        = some (s.site, s.worker.setLoop n l' .exited) := by
      rw [Worker.stepLoop, hget]
      simp only [hover, h.not_aborted hlast hne, Bool.false_eq_true,
        if_false]
      exact hrun
    show (Worker.stepLoop p s.site s.worker n).map _ = _
    rw [hstep]
    rfl

/-- When the loop has exited, a caller who waits can go on. -/
lemma forall_returned_of_idle (hidle : (machine p).Idle s)
    (hex : s.worker.phase = .exited) : s.NobodyWaits := by
  intro c hc
  rcases h.stops c hc with rfl | ⟨i, rfl⟩
  · rfl
  · exfalso
    obtain ⟨k, hk⟩ := List.mem_iff_getElem?.1 hc
    have hlast : i + 1 = s.worker.phases.length := h.engaged.one.awaited _ hc
    have hover : s.worker.loopIsOver i = true := by
      by_contra hno
      obtain ⟨ph, hph, hne⟩ :=
        Worker.exists_of_not_loopIsOver (by simpa using hno)
      exact hne (Worker.forall_exited h.engaged.one.earlier hex ph
        (List.mem_of_getElem? hph))
    have hstep : WorkerSystem.step p s (.caller k) ≠ none := by
      have hres : s.worker.resume (.awaitingExit i)
          = some ({ s.worker with state := .stopped }, .returned) :=
        if_pos hover
      show s.stepCaller k ≠ none
      rw [WorkerSystem.stepCaller, hk]
      simp [hres]
    exact hstep (hidle (.caller k))

end Quitting

/-! ### The stop -/

/-- What a worker shows that was told to stop in `s₀`, when its loop had
made the calls `cur` in its cycle. -/
structure Graceful (p : Platform σ) (table : HandlerTable)
    (s₀ : WorkerSystem σ) (before cur : List Event) (s : WorkerSystem σ) :
    Prop where
  /-- Who told it to stop returns only after the loop has exited. -/
  returned : ∀ k, s₀.callers.length ≤ k →
    s.callers[k]? = some .returned → ∀ i, s.worker.loopIsOver i = true
  /-- The loop makes the calls of its cycle and no others. -/
  cycle : ∃ es, s.site.journal.calls = before ++ (cur ++ es)
    ∧ InCycle table s.worker.cores (cur ++ es) s.worker.phase
  /-- What was begun is ended before the loop exits: after the call of a
  handler a terminal status is written. -/
  reported : s.worker.phase = .exited → ∀ h t j,
    s.site.journal.calls = before ++ j → .execute h t ∈ j →
    ∃ status reason r, status.isTerminal = true
      ∧ .status t.id status reason r ∈ j
  /-- At most one more operation is dispatched. -/
  once : s.site.journal.calls.countP (·.executed?.isSome)
    ≤ s₀.site.journal.calls.countP (·.executed?.isSome) + 1
  /-- A loop that rests makes no further call. -/
  undisturbed : s₀.worker.phase.IsResting →
    s.site.journal.calls = s₀.site.journal.calls
  /-- After its cycle the loop exits at once. -/
  prompt : s.worker.phase.IsResting → s.worker.phase ≠ .exited →
    ∃ s', step p s (.loop (s.worker.loops.length - 1)) = some s'
      ∧ s'.site = s.site ∧ s'.worker.phase = .exited
  /-- The clock moves only during a cycle, or when all is over. -/
  clock : (machine p).Idle s → s.worker.phase.IsResting →
    s.worker.phase = .exited ∧ s.NobodyWaits
  /-- When the loop has exited, there is no further call. -/
  final : s.worker.phase = .exited → ∀ s', Afterwards p s s' →
    s'.site.journal.calls = s.site.journal.calls

/-- A worker that is held and for which nobody waits is told to stop,
whatever its loop is doing.  However it goes on, and whoever tells it to
stop too: the loop ends its cycle and exits. -/
theorem graceful_of_stop (h : Held p site table interval s₀)
    (hw : s₀.NobodyWaits) :
    ∃ before cur, s₀.site.journal.calls = before ++ cur
      ∧ InCycle table s₀.worker.cores cur s₀.worker.phase
      ∧ ∀ s, Afterwards p s₀.stop s → Graceful p table s₀ before cur s := by
  obtain ⟨before, cur, ht⟩ := h.isTraced
  have hin := ht.traced.inCycle
  rw [ht.table] at hin
  refine ⟨before, cur, ht.traced.calls, hin, fun s hs => ?_⟩
  have hstop := ht.stop hw h.released
  have hq := hstop.afterwards hs
  obtain ⟨es, hes⟩ := hq.traced
  have hcur := hes.inCycle
  rw [hq.table] at hcur
  exact {
    returned := fun k hk hret i => by
      by_contra hno
      obtain ⟨ph, hph, hne⟩ :=
        Worker.exists_of_not_loopIsOver (by simpa using hno)
      exact hne (Worker.forall_exited hq.engaged.one.earlier
        (hq.returned k hk hret) ph (List.mem_of_getElem? hph))
    cycle := ⟨es, hes.calls, hcur⟩
    reported := fun hex h' t j hj he => by
      obtain rfl : cur ++ es = j :=
        List.append_cancel_left (hes.calls.symm.trans hj)
      rw [hex] at hcur
      refine (hcur.resolve_left fun hnil => ?_).reported he
      rw [hnil] at he
      cases he
    once := by
      have hle := hcur.executions_le
      rw [List.countP_append] at hle
      rw [hes.calls, ht.traced.calls, List.countP_append,
        List.countP_append, List.countP_append]
      omega
    undisturbed := fun hr => by
      have hr' : s₀.stop.worker.phase.IsResting := by
        show s₀.worker.beginStop.1.phase.IsResting
        rw [Worker.phase_congr (Worker.SameTasks.beginStop _).phases]
        exact hr
      exact (hstop.rests_afterwards hs hr').2.trans (calls_noteReturn _ _ _)
    prompt := hq.exists_step
    clock := fun hidle hr => by
      have hex : s.worker.phase = .exited := by
        by_contra hne
        obtain ⟨s', hs', -⟩ := hq.exists_step (p := p) hr hne
        cases hs'.symm.trans
          (hidle (.loop (s.worker.loops.length - 1)))
      exact ⟨hex, hq.forall_returned_of_idle hidle hex⟩
    final := fun hex s' hs' => by
      have hr : s.worker.phase.IsResting := by
        rw [hex]
        trivial
      exact (hq.rests_afterwards hs' hr).2 }

/-- A handler of restarts. -/
def restarter : Handler where
  uid := 0
  name := "restarter"
  kinds := [Kind.restart]

/-- A worker whose loop waits for its first poll, with two operations
pending. -/
def pollingWorker : WorkerSystem (MemoryPlatform × Unit) :=
  let restart (id : String) :=
    (Operation.new id).withFragment Kind.restart (.object [])
  let s : WorkerSystem (MemoryPlatform × Unit) := {
    site := { world := ({ operations := [restart "1", restart "2"] }, ()) }
    worker := .new (.ofRegistrations [⟨restarter, restarter.kinds⟩])
      (.ofMillis 100) }
  let s := s.start?.getD s
  (step Host.prompt.platform s (.loop 0)).getD s

/-- One of the two operations is executed, and then the loop exits. -/
theorem graceful_pollingWorker :
    let p := Host.prompt.platform
    let s := (machine p).settle 40 pollingWorker.stop
    (∃ site table interval, Held p site table interval pollingWorker)
      ∧ pollingWorker.NobodyWaits
      ∧ pollingWorker.worker.phase = .polling 0
      ∧ (∀ i, s.worker.loopIsOver i = true)
      ∧ s.site.journal.calls.countP (·.executed?.isSome) = 1
      ∧ ∀ s', Afterwards p s s' →
        s'.site.journal.calls = s.site.journal.calls := by
  intro p s
  have hw : pollingWorker.NobodyWaits := fun c hc => by cases hc
  obtain ⟨site, table, interval, h⟩ : ∃ site table interval,
      Held p site table interval pollingWorker := by
    refine ⟨_, _, _, .move (.move .new (.start ?_ rfl) rfl)
      (.step (.run (.loop 0) rfl)) rfl⟩
    exact fun c hc => by cases hc
  obtain ⟨before, cur, -, -, hall⟩ := graceful_of_stop h hw
  have hg := hall s (.of_runs (Machine.settle_runs 40 _))
  exact ⟨⟨site, table, interval, h⟩, hw, by decide +kernel,
    hg.returned 0 (Nat.zero_le 0) (by decide +kernel), by decide +kernel,
    hg.final (by decide +kernel)⟩

end WorkerSystem

end RemoteOps
