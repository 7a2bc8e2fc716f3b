/-
A worker that is told to abort.

The loop is cut off wherever it is, and then the call that it has left in
flight; all of this happens at one instant.  What the loop had in hand
stays as the platform shows it.

* `WorkerSystem.Managed`: a worker whose callers may give up waiting;
* `WorkerSystem.Aborting`: the invariant of a worker that was told to
  abort;
* `WorkerSystem.Aborting.inevitable`: whoever told it to returns;
* `WorkerSystem.severed_of_abort`: what the worker, the journal and the
  platform show of it.
-/
import RemoteOps.Proofs.Inevitable
import RemoteOps.Proofs.Worker.GracefulStop
import RemoteOps.Proofs.Worker.InHand
import RemoteOps.Proofs.Worker.Manned

namespace RemoteOps

/-! ### What is left to do -/

/-- How many steps a halt still takes at most. -/
def Halt.steps : Halt → Nat
  | .abortingLoop _ => 2
  | .awaitingExit _ | .abortingCall _ => 1
  | .returned => 0

/-- How many steps a call still takes at most. -/
def HandlerCall.steps (c : HandlerCall) : Nat :=
  match c.phase with
  | .spawned => 2
  | .running _ _ => 1
  | .ended _ => 0

/-- A call that has not begun is open. -/
lemma HandlerCall.isOver_of_spawned {c : HandlerCall}
    (h : c.phase = .spawned) : c.isOver = false := by
  simp [isOver, result?, h]

/-- A call that goes on has less to do. -/
lemma CallMove.steps_lt {c : HandlerCall} {es : List Event}
    {phase : CallPhase} (h : CallMove c es phase) :
    ({ c.core with phase } : HandlerCall).steps < c.core.steps := by
  cases h with
  | begin _ hc | finish _ hc =>
    simp [HandlerCall.steps, HandlerCall.core, hc]
  | cut _ ho =>
    cases hp : c.phase with
    | spawned | running => simp [HandlerCall.steps, HandlerCall.core, hp]
    | ended r => simp [HandlerCall.isOver, HandlerCall.result?, hp] at ho

/-- So does a caller who goes on. -/
lemma Worker.steps_resume_lt {w w' : Worker} {h h' : Halt}
    (hr : w.resume h = some (w', h')) : h'.steps < h.steps := by
  cases resume_cases hr with
  | stopped | nothing | gone => exact Nat.succ_pos _
  | cut => exact Nat.one_lt_two

namespace WorkerSystem

lemma world_noteReturn {σ : Type} (site : Site σ) (i : Nat) (h : Halt) :
    (noteReturn site i h).world = site.world := by
  rw [noteReturn]
  split <;> rfl

lemma now_noteReturn {σ : Type} (site : Site σ) (i : Nat) (h : Halt) :
    (noteReturn site i h).now = site.now := by
  rw [noteReturn]
  split <;> rfl

/-- Nothing of a worker goes on: its loops have exited and its calls are
over. -/
structure IsStill (w : Worker) : Prop where
  loops : ∀ ph ∈ w.phases, ph = .exited
  calls : ∀ c ∈ w.cores, c.isOver = true

lemma IsStill.congr {w w' : Worker} (h : IsStill w)
    (hw : w.SameTasks w') : IsStill w' :=
  ⟨hw.phases ▸ h.loops, hw.cores ▸ h.calls⟩

lemma IsStill.isOver {w : Worker} (h : IsStill w) :
    (∀ i, w.loopIsOver i = true) ∧ ∀ i, w.callIsOver i = true :=
  ⟨Worker.loopIsOver_of_forall_exited h.loops,
    Worker.callIsOver_of_forall_isOver fun c hc =>
      h.calls c.core (List.mem_map_of_mem hc)⟩

section Aborting

variable {σ : Type} {p : Platform σ} {s₀ s s' : WorkerSystem σ} {h : Halt}

/-- How many steps are left when the loop is to be cut off. -/
def work (s : WorkerSystem σ) : Nat :=
  (if s.worker.phase = .exited then 0 else 1)
    + (s.worker.cores.map HandlerCall.steps).sum
    + (s.callers.map Halt.steps).sum

/-- A worker that was told to abort in `s₀`, when nobody was waiting, by a
caller who is at a halt now. -/
structure Aborting (s₀ : WorkerSystem σ) (h : Halt) (s : WorkerSystem σ) :
    Prop where
  callers : s.callers = s₀.callers ++ [h]
  waits : s₀.NobodyWaits
  engaged : s.worker.Engaged [h]
  cutOff : h ≠ .returned → s.worker.CutOff h
  ended : h = .returned → s.worker.phase = .exited
  released : s.released = false
  /-- The clock stands still until the caller has returned. -/
  now : h ≠ .returned → s.site.now = s₀.site.now
  /-- No further call was made. -/
  made : ∀ c ∈ s.worker.cores, c.phase = .spawned → c ∈ s₀.worker.cores
  /-- A call that had been made and had not begun may have begun. -/
  begun : s.site.journal.calls = s₀.site.journal.calls
    ∨ (∃ c ∈ s₀.worker.cores, c.phase = .spawned
        ∧ s.site.journal.calls
          = s₀.site.journal.calls ++ [.execute c.handler c.operation])
      ∧ ∀ c ∈ s.worker.cores, c.phase ≠ .spawned

/-- Without a loop an abort returns at once. -/
lemma beginAbort_of_nil {w : Worker} {callers : List Halt}
    (he : w.Engaged callers) (hw : ∀ c ∈ callers, c = .returned)
    (hnone : w.current? = none) : w.beginAbort.2 = .returned := by
  have hnil : w.phases = [] := by
    rcases w.current?_cases with ⟨hnil, -⟩ | ⟨i, hsome, -⟩
    · exact hnil
    · rw [hnone] at hsome
      cases hsome
  have hf : w.inFlight = none := he.inFlight_of_exited
    (Worker.phase_of_forall_exited (by simp [hnil])) fun i hi =>
      Halt.noConfusion (hw _ hi)
  rw [Worker.beginAbort_of_none hnone, Worker.abortInFlight,
    show ({ w with running := false } : Worker).inFlight = none from hf]

/-- The abort. -/
lemma aborting_abort (he : s₀.worker.Engaged s₀.callers)
    (hw : s₀.NobodyWaits) (hr : s₀.released = false) :
    Aborting s₀ s₀.worker.beginAbort.2 s₀.abort := by
  have hsame := Worker.SameTasks.beginAbort s₀.worker
  have hnone : ∀ c ∈ s₀.callers ++ [s₀.worker.beginAbort.2],
      c ∈ [s₀.worker.beginAbort.2] ∨ c = .returned := fun c hc =>
    (List.mem_append.1 hc).symm.imp_right (hw c)
  have hstay : ∀ c ∈ s₀.callers ++ [s₀.worker.beginAbort.2],
      c ≠ .returned → c ∈ [s₀.worker.beginAbort.2] := fun c hc hne =>
    (hnone c hc).resolve_right hne
  exact {
    callers := rfl
    waits := hw
    engaged := he.beginAbort.callers_mono
      (fun c hc => .inl (List.mem_append_right _ hc))
      (fun i hi => hstay _ hi Halt.noConfusion)
      fun n hn => hstay _ hn Halt.noConfusion
    cutOff := fun hne => by
      cases hc : s₀.worker.current? with
      | none => exact absurd (beginAbort_of_nil he hw hc) hne
      | some i => exact .beginAbort hc
    ended := fun hret => by
      show s₀.worker.beginAbort.1.phase = .exited
      rw [Worker.phase_congr hsame.phases]
      exact Worker.phase_of_forall_exited
        (by simp [Worker.phases_of_beginAbort hret])
    released := hr
    now := fun hne => by
      show (noteReturn s₀.site _ s₀.worker.beginAbort.2).now = _
      rw [noteReturn, if_neg hne]
    made := fun c hc _ => hsame.cores ▸ hc
    begun := .inl (calls_noteReturn _ _ _) }

namespace Aborting

variable (ha : Aborting s₀ h s)

include ha

/-- While the loop is alive, it is to be cut off. -/
lemma aborted {l : PollLoop} {i : Nat} (hl : s.worker.loops[i]? = some l)
    (hne : l.phase ≠ .exited) :
    l.aborted = true ∧ h ≠ .returned := by
  obtain ⟨hlast, hlen⟩ :=
    Worker.getLast?_of_live ha.engaged.one.earlier hl hne
  have hph := Worker.phase_of_getLast? hlast
  have hret : h ≠ .returned := fun hret =>
    hne (hph ▸ ha.ended hret)
  refine ⟨?_, hret⟩
  have hcut := ha.cutOff hret
  have hawait := ha.engaged.one.awaited h (List.mem_singleton_self h)
  cases h with
  | awaitingExit k | returned => exact hcut.elim
  | abortingCall n =>
    exact absurd (hawait _ (List.mem_map_of_mem (List.mem_of_getElem? hl))) hne
  | abortingLoop k =>
    have hk : k + 1 = s.worker.phases.length := hawait
    rw [Worker.phases, List.length_map] at hk
    obtain rfl : k = i := by omega
    exact hcut l hl

/-- A call that is open is the one that the caller has cut off or will
have cut off. -/
lemma open_unique {c c' : HandlerCall} {i k : Nat}
    (hc : s.worker.calls[i]? = some c) (ho : c.isOver = false)
    (hc' : s.worker.calls[k]? = some c') (ho' : c'.isOver = false) :
    i = k ∧ h ≠ .returned := by
  refine ⟨ha.engaged.open_unique (fun a ha b hb _ _ => ?_) hc ho hc' ho', ?_⟩
  · exact (List.mem_singleton.1 ha).trans (List.mem_singleton.1 hb).symm
  · rintro rfl
    have hover := ha.engaged.isOver_of_exited (ha.ended rfl)
      (fun j hj => by cases List.mem_singleton.1 hj)
      (fun n hn => by cases List.mem_singleton.1 hn) c
      (List.mem_of_getElem? hc)
    rw [ho] at hover
    cases hover

lemma stepLoop {i : Nat} {site : Site σ} {w : Worker}
    (hs : Worker.stepLoop p s.site s.worker i = some (site, w)) :
    Aborting s₀ h { s with site, worker := w }
      ∧ site = s.site ∧ w.cores = s.worker.cores
      ∧ s.worker.phase ≠ .exited ∧ w.phase = .exited := by
  obtain ⟨l, hl, hne, hcases⟩ := Worker.stepLoop_cases hs
  obtain ⟨hlast, hlen⟩ :=
    Worker.getLast?_of_live ha.engaged.one.earlier hl hne
  obtain ⟨hcut, hret⟩ := ha.aborted hl hne
  have hph : s.worker.phase ≠ .exited :=
    Worker.phase_of_getLast? hlast ▸ hne
  have hengaged := ha.engaged.stepLoop hs
  have hcutOff := (ha.cutOff hret).stepLoop ha.engaged
    (List.mem_singleton_self h) hs
  rcases hcases with ⟨-, rfl, rfl⟩ | ⟨hno, -⟩
  · have hex : (s.worker.setLoop i l .exited).phase = .exited :=
      Worker.phase_of_getLast? (Worker.getLast?_setLoop hlen l .exited)
    exact ⟨{ ha with
      engaged := hengaged
      cutOff := fun _ => hcutOff
      ended := fun _ => hex }, rfl, rfl, hph, hex⟩
  · rw [hcut] at hno
    cases hno

/-- When a call has begun, none is left that has not. -/
lemma ne_spawned_of_begin {i : Nat} {c : HandlerCall} {ph : CallPhase}
    (hc : s.worker.calls[i]? = some c) (hsp : c.phase = .spawned)
    (hph : ph ≠ .spawned) :
    ∀ c' ∈ (s.worker.setCall i c ph).cores, c'.phase ≠ .spawned := by
  intro c' hc' hsp'
  obtain ⟨k, hk⟩ := List.mem_iff_getElem?.1 hc'
  rw [Worker.cores_setCall] at hk
  by_cases hik : i = k
  · subst hik
    have hlt : i < s.worker.cores.length := by
      rw [Worker.length_cores]
      exact (List.getElem?_eq_some_iff.1 hc).1
    rw [List.getElem?_set_self hlt, Option.some.injEq] at hk
    rw [← hk] at hsp'
    exact hph hsp'
  · rw [List.getElem?_set_ne hik, Worker.cores, List.getElem?_map] at hk
    obtain ⟨c₁, hc₁, rfl⟩ := Option.map_eq_some_iff.1 hk
    have hsp₁ : c₁.phase = .spawned := hsp'
    exact hik (ha.open_unique hc (HandlerCall.isOver_of_spawned hsp) hc₁
      (HandlerCall.isOver_of_spawned hsp₁)).1

lemma stepCall {i : Nat} {site : Site σ} {w : Worker}
    (hs : Worker.stepCall p s.site s.worker i = some (site, w)) :
    Aborting s₀ h { s with site, worker := w } := by
  have hengaged := ha.engaged.stepCall hs
  have hcutOff := fun hret => (ha.cutOff hret).stepCall hs
  have hphase := Worker.phase_congr (Worker.stepCall_phases hs).1
  obtain ⟨c, es, ph, hc, hm, hg, rfl⟩ := Worker.stepCall_cases hs
  have hcore : c.core ∈ s.worker.cores :=
    List.mem_of_getElem? (Worker.cores_getElem? hc)
  have hmoved : ph ≠ .spawned := by
    cases hm <;> exact CallPhase.noConfusion
  have hmem : ∀ c' ∈ (s.worker.setCall i c ph).cores, c'.phase = .spawned →
      c' ∈ s.worker.cores := fun c' hc' hsp => by
    rw [Worker.cores_setCall] at hc'
    rcases List.mem_or_eq_of_mem_set hc' with hc' | rfl
    · exact hc'
    · exact absurd hsp hmoved
  refine { ha with
    engaged := hengaged
    cutOff := hcutOff
    ended := fun hret => hphase.trans (ha.ended hret)
    now := fun hret => hg.now.trans (ha.now hret)
    made := fun c' hc' hsp => ha.made c' (hmem c' hc' hsp) hsp
    begun := ?_ }
  have hcalls : site.journal.calls = s.site.journal.calls ++ es := hg.calls
  show site.journal.calls = _ ∨ _
  rw [hcalls]
  cases hm with
  | cut | finish =>
    rw [List.append_nil]
    exact ha.begun.imp_right fun ⟨hb, hno⟩ =>
      ⟨hb, fun c' hc' hsp => hno c' (hmem c' hc' hsp) hsp⟩
  | begin _ hsp =>
    -- the only call that had not begun begins
    rcases ha.begun with hnone | ⟨-, hno⟩
    · exact .inr ⟨⟨c.core, ha.made _ hcore hsp, hsp, by rw [hnone]; rfl⟩,
        ha.ne_spawned_of_begin hc hsp hmoved⟩
    · exact absurd (show c.core.phase = .spawned from hsp) (hno _ hcore)

/-- The caller goes on. -/
lemma stepCaller {i : Nat} {c c' : Halt} {w : Worker}
    (hc : s.callers[i]? = some c) (hw : s.worker.resume c = some (w, c')) :
    Aborting s₀ c' { s with
        site := noteReturn s.site i c'
        worker := w
        callers := s.callers.set i c' }
      ∧ c'.steps < h.steps := by
  obtain ⟨rfl, rfl⟩ : c = h ∧ i = s₀.callers.length := by
    rw [ha.callers] at hc
    rcases Nat.lt_trichotomy i s₀.callers.length with hlt | rfl | hgt
    · rw [List.getElem?_append_left hlt] at hc
      rw [ha.waits c (List.mem_of_getElem? hc)] at hw
      cases hw
    · rw [List.getElem?_concat_length, Option.some.injEq] at hc
      exact ⟨hc.symm, rfl⟩
    · rw [List.getElem?_eq_none (by simp; omega)] at hc
      cases hc
  have hsame := Worker.SameTasks.resume hw
  have hret : c ≠ .returned := by
    rintro rfl
    cases hw
  obtain ⟨hall, -⟩ := ha.engaged.one.resume (List.mem_singleton_self c) hw
  have hengaged := ha.engaged.resume (i := 0) rfl hw
  refine ⟨{
    callers := ?_
    waits := ha.waits
    engaged := hengaged
    cutOff := (ha.cutOff hret).resume hw
    ended := fun _ => by
      show w.phase = .exited
      rw [Worker.phase_congr hsame.phases]
      exact Worker.phase_of_forall_exited hall
    released := ha.released
    now := fun _ => (now_noteReturn _ _ _).trans (ha.now hret)
    made := ?_
    begun := ?_ }, Worker.steps_resume_lt hw⟩
  · show s.callers.set s₀.callers.length c' = _
    rw [ha.callers, List.set_append_right _ _ (Nat.le_refl _), Nat.sub_self]
    rfl
  · show ∀ c ∈ w.cores, _
    rw [hsame.cores]
    exact ha.made
  · show (noteReturn _ _ _).journal.calls = _
      ∨ (∃ c ∈ _, _ ∧ (noteReturn _ _ _).journal.calls = _)
        ∧ ∀ c ∈ w.cores, _
    rw [hsame.cores, calls_noteReturn]
    exact ha.begun

/-- Until the caller has returned, somebody can go on. -/
lemma not_idle (hret : h ≠ .returned) {s' : WorkerSystem σ}
    (hw : s'.worker = s.worker) (hc : s'.callers = s.callers) :
    ¬ (machine p).Idle s' := by
  intro hidle
  have hget : s'.callers[s₀.callers.length]? = some h := by
    rw [hc, ha.callers, List.getElem?_concat_length]
  rcases (ha.cutOff hret).exists_step p s'.site with hgo | ⟨i, hi⟩ | ⟨i, hi⟩
  · obtain ⟨⟨w, h'⟩, hr⟩ := Option.ne_none_iff_exists'.1 hgo
    have hnone : s'.stepCaller s₀.callers.length = none :=
      hidle (.caller s₀.callers.length)
    rw [WorkerSystem.stepCaller, hget, hw] at hnone
    simp [hr] at hnone
  · have hnone := hidle (.loop i)
    exact hi (hw ▸ Option.map_eq_none_iff.1 hnone)
  · have hnone := hidle (.call i)
    exact hi (hw ▸ Option.map_eq_none_iff.1 hnone)

/-- A task that takes a step leaves less to do, and the owner's worker is
not destroyed. -/
lemma stepTask {t : WorkerTask} (hs : step p s t = some s') :
    (∃ h', Aborting s₀ h' s') ∧ s'.work < s.work := by
  cases step_cases hs with
  | @loop i site w hl =>
    obtain ⟨ha', -, hcores, hne, hex⟩ := ha.stepLoop hl
    refine ⟨⟨h, ha'⟩, ?_⟩
    show (if w.phase = .exited then 0 else 1)
      + (w.cores.map HandlerCall.steps).sum
      + (s.callers.map Halt.steps).sum < s.work
    rw [hcores, if_pos hex, work, if_neg hne]
    omega
  | @call i site w hc =>
    have ha' := ha.stepCall hc
    have hphase := Worker.phase_congr (Worker.stepCall_phases hc).1
    obtain ⟨c, es, ph, hget, hm, -, rfl⟩ := Worker.stepCall_cases hc
    refine ⟨⟨h, ha'⟩, ?_⟩
    show (if (s.worker.setCall i c ph).phase = .exited then 0 else 1)
      + ((s.worker.setCall i c ph).cores.map HandlerCall.steps).sum
      + (s.callers.map Halt.steps).sum < s.work
    rw [hphase, Worker.cores_setCall, work]
    have hsum := sum_map_set HandlerCall.steps
      (Worker.cores_getElem? hget) { c.core with phase := ph }
    have hlt := hm.steps_lt
    omega
  | @caller i c c' w hc hw =>
    obtain ⟨ha', hlt⟩ := ha.stepCaller hc hw
    have hsame := Worker.SameTasks.resume hw
    refine ⟨⟨c', ha'⟩, ?_⟩
    rw [work, work, hsame.cores, Worker.phase_congr hsame.phases,
      ha'.callers, ha.callers]
    simp only [List.map_append, List.map_cons, List.map_nil,
      List.sum_append, List.sum_cons, List.sum_nil]
    omega
  | destroy hrel => cases ha.released.symm.trans hrel

/-- The clock moves on when the abort is over. -/
lemma clock (hidle : (machine p).Idle s) (now : Nat) :
    Aborting s₀ h (s.setNow now) := by
  have hret : h = .returned := by
    by_contra hret
    exact ha.not_idle hret rfl rfl hidle
  exact { ha with now := fun hne => absurd hret hne }

lemma step (hs : (machine p).Step s s') : ∃ h', Aborting s₀ h' s' := by
  cases hs with
  | run t ht => exact (ha.stepTask ht).1
  | wait hidle => exact ⟨h, ha.clock hidle _⟩

/-- The state of the platform does not matter. -/
lemma withWorld (world : σ) : Aborting s₀ h (s.withWorld world) :=
  { ha with }

lemma hasReturned_iff :
    hasReturned s₀.callers.length s = true ↔ h = .returned := by
  rw [hasReturned, ha.callers, List.getElem?_concat_length]
  simp

/-- Whoever told the worker to abort returns, whatever the tasks do. -/
theorem inevitable : (machine p).Inevitable
    (fun s => hasReturned s₀.callers.length s = true) s := by
  have hlive : ∀ s s' : WorkerSystem σ, (∃ h, Aborting s₀ h s) →
      ¬ hasReturned s₀.callers.length s = true →
      s'.worker = s.worker → s'.callers = s.callers →
      ¬ (machine p).Idle s' := by
    rintro s s' ⟨h, ha⟩ hret hw hc
    exact ha.not_idle (fun h => hret (ha.hasReturned_iff.2 h)) hw hc
  refine Machine.Inevitable.of_measure
    (I := fun s => ∃ h, Aborting s₀ h s) work ?_ ?_ ?_ ?_ ?_ ⟨h, ha⟩
  · exact fun s s' ⟨h, ha⟩ _ hs => ha.step hs
  · exact fun s ha hret hidle =>
      absurd hidle (hlive s s ha hret rfl rfl)
  · exact fun s ha hret d _ _ => hlive s _ ha hret rfl rfl
  · exact fun s t s' ⟨h, ha⟩ _ hs => (ha.stepTask hs).2
  · exact fun s d => rfl

/-- Once the caller has returned, neither a loop nor a call goes on. -/
lemma isStill (hret : h = .returned) : IsStill s.worker := by
  subst hret
  refine ⟨Worker.forall_exited ha.engaged.one.earlier (ha.ended rfl),
    fun c hc => ?_⟩
  obtain ⟨c₀, hc₀, rfl⟩ := List.mem_map.1 hc
  exact ha.engaged.isOver_of_exited (ha.ended rfl)
    (fun j hj => by cases List.mem_singleton.1 hj)
    (fun n hn => by cases List.mem_singleton.1 hn) c₀ hc₀

end Aborting

/-! ### After the abort -/

/-- Only returns of callers were entered. -/
def OnlyReturns (j j' : Journal) : Prop :=
  ∃ l : Journal, j' = l ++ j ∧ ∀ e ∈ l, ∃ k, e.event = .returned k

lemma OnlyReturns.refl (j : Journal) : OnlyReturns j j :=
  ⟨[], rfl, fun _ h => by cases h⟩

lemma OnlyReturns.trans {j j' j'' : Journal} (h : OnlyReturns j j')
    (h' : OnlyReturns j' j'') : OnlyReturns j j'' := by
  obtain ⟨l, rfl, hl⟩ := h
  obtain ⟨l', rfl, hl'⟩ := h'
  refine ⟨l' ++ l, (List.append_assoc ..).symm, fun e he => ?_⟩
  rcases List.mem_append.1 he with he | he
  · exact hl' e he
  · exact hl e he

/-- What a worker that is still comes to without a start: no task takes a
step, and nobody calls the platform. -/
structure Rests (s : WorkerSystem σ) (site : Site σ) (w : Worker) :
    Prop where
  still : IsStill w
  cores : w.cores = s.worker.cores
  world : site.world = s.site.world
  journal : OnlyReturns s.site.journal site.journal

/-- A worker that is still stays so until it is started. -/
lemma rests_of_move (h : IsStill s.worker)
    (hm : Move p (fun _ => False) s s') : Rests s s'.site s'.worker := by
  refine hm.keeps (P := Rests s) ?_ ?_ ?_ ?_ ?_ ⟨h, rfl, rfl, .refl _⟩
  · intro site site' w w' hnote hsame hr
    have hnew : OnlyReturns site.journal site'.journal
        ∧ site'.world = site.world := by
      rcases hnote with rfl | ⟨n, rfl⟩
      · exact ⟨.refl _, rfl⟩
      · refine ⟨⟨[⟨site.now, .returned n⟩], rfl, fun e he => ?_⟩, rfl⟩
        exact ⟨n, by rw [List.mem_singleton.1 he]⟩
    exact ⟨hr.still.congr hsame, hsame.cores.trans hr.cores,
      hnew.2.trans hr.world, hr.journal.trans hnew.1⟩
  · exact fun now hr => ⟨hr.still, hr.cores, hr.world, hr.journal⟩
  · exact fun hno => hno.elim
  · intro site site' w w' i hs hr
    obtain ⟨l, hl, hne, -⟩ := Worker.stepLoop_cases hs
    exact absurd (hr.still.loops _
      (List.mem_map_of_mem (List.mem_of_getElem? hl))) hne
  · intro site site' w w' i hs hr
    obtain ⟨c, es, ph, hc, hm, -, -⟩ := Worker.stepCall_cases hs
    have hover : c.core.isOver = true := hr.still.calls _
      (List.mem_of_getElem? (Worker.cores_getElem? hc))
    have hopen : c.core.isOver = false := hm.isOver
    rw [hopen] at hover
    cases hover

end Aborting

/-! ### The abort on a platform in memory -/

section Memory

variable {τ : Type} {H : Host τ} {site : Site (MemoryPlatform × τ)}
  {table : HandlerTable} {interval : Span}
  {s₀ s s' : WorkerSystem (MemoryPlatform × τ)} {h : Halt}

/-- A caller gives up waiting. -/
def giveUp {σ : Type} (s : WorkerSystem σ) (i : Nat) : WorkerSystem σ :=
  { s with callers := s.callers.set i .returned }

/-- A worker whose owner holds on to it.  Every start finds that nobody
waits any more; whoever told the worker to stop may give up waiting, and
others may issue operations. -/
inductive Managed (H : Host τ) (site : Site (MemoryPlatform × τ))
    (table : HandlerTable) (interval : Span) :
    WorkerSystem (MemoryPlatform × τ) → Prop where
  | new : Managed H site table interval
    { site, worker := .new table interval }
  | move {s s' : WorkerSystem (MemoryPlatform × τ)}
    (h : Managed H site table interval s)
    (hm : Move H.platform NobodyWaits s s') (hr : s'.released = false) :
    Managed H site table interval s'
  | giveUp {s : WorkerSystem (MemoryPlatform × τ)} {i k : Nat}
    (h : Managed H site table interval s)
    (hi : s.callers[i]? = some (.awaitingExit k)) :
    Managed H site table interval (s.giveUp i)
  | outside {s : WorkerSystem (MemoryPlatform × τ)}
    (h : Managed H site table interval s) (world : MemoryPlatform × τ)
    (hw : s.site.world.1.Extends world.1) :
    Managed H site table interval (s.withWorld world)

/-- What can come of a worker that nobody calls, while others may issue
operations.  The clock moves on in any way when no task can take a
step. -/
inductive LeftAlone (H : Host τ) (s : WorkerSystem (MemoryPlatform × τ)) :
    WorkerSystem (MemoryPlatform × τ) → Prop where
  | refl : LeftAlone H s s
  | step {s' s'' : WorkerSystem (MemoryPlatform × τ)}
    (h : LeftAlone H s s') (hs : (machine H.platform).Step s' s'') :
    LeftAlone H s s''
  | pass {s' : WorkerSystem (MemoryPlatform × τ)}
    (h : LeftAlone H s s') (hidle : (machine H.platform).Idle s')
    (now : Nat) : LeftAlone H s (s'.setNow now)
  | outside {s' : WorkerSystem (MemoryPlatform × τ)}
    (h : LeftAlone H s s') (world : MemoryPlatform × τ)
    (hw : s'.site.world.1.Extends world.1) :
    LeftAlone H s (s'.withWorld world)

/-- What can come of a worker that is not started, while others may issue
operations. -/
inductive Unstarted (H : Host τ) (s : WorkerSystem (MemoryPlatform × τ)) :
    WorkerSystem (MemoryPlatform × τ) → Prop where
  | refl : Unstarted H s s
  | move {s' s'' : WorkerSystem (MemoryPlatform × τ)}
    (h : Unstarted H s s')
    (hm : Move H.platform (fun _ => False) s' s'') : Unstarted H s s''
  | outside {s' : WorkerSystem (MemoryPlatform × τ)}
    (h : Unstarted H s s') (world : MemoryPlatform × τ)
    (hw : s'.site.world.1.Extends world.1) :
    Unstarted H s (s'.withWorld world)

/-- A caller who waits for the exit of a loop does not matter. -/
lemma engaged_giveUp {σ : Type} {s : WorkerSystem σ} {i k : Nat}
    (he : s.worker.Engaged s.callers)
    (hi : s.callers[i]? = some (.awaitingExit k)) :
    s.worker.Engaged (s.giveUp i).callers := by
  have hstay : ∀ c ∈ s.callers, c ≠ .awaitingExit k →
      c ∈ s.callers.set i .returned := by
    intro c hc hne
    obtain ⟨n, hn⟩ := List.mem_iff_getElem?.1 hc
    refine List.mem_iff_getElem?.2 ⟨n, ?_⟩
    rw [List.getElem?_set_ne, hn]
    rintro rfl
    exact hne (Option.some.inj (hn.symm.trans hi))
  exact he.callers_mono (fun c hc => List.mem_or_eq_of_mem_set hc)
    (fun n hn => hstay _ hn Halt.noConfusion)
    fun n hn => hstay _ hn Halt.noConfusion

namespace Managed

lemma released (h : Managed H site table interval s) :
    s.released = false := by
  induction h with
  | new => rfl
  | move _ _ hr => exact hr
  | giveUp _ _ ih => exact ih
  | outside _ _ _ ih => exact ih

/-- The journal of a managed worker shows its cycles. -/
lemma isTraced (h : Managed H site table interval s) :
    ∃ before cur, IsTraced table before cur s := by
  induction h with
  | new => exact ⟨_, _, isTraced_new site table interval⟩
  | move _ hm hr ih =>
    obtain ⟨before, cur, ih⟩ := ih
    exact ih.move hm hr
  | giveUp _ hi ih =>
    obtain ⟨before, cur, ih⟩ := ih
    exact ⟨before, cur, ih.table, engaged_giveUp ih.engaged hi, ih.traced⟩
  | outside _ world _ ih =>
    obtain ⟨before, cur, ih⟩ := ih
    exact ⟨before, cur, ih.withWorld world⟩

/-- The platform shows what a managed worker has in hand. -/
lemma inHand (h : Managed H site table interval s) :
    s.site.world.1.InHand s.worker.phase := by
  -- what callers do changes neither the platform nor the phase
  have hcaller : ∀ {s : WorkerSystem (MemoryPlatform × τ)} {w : Worker}
      (n : Nat) (c : Halt), s.worker.SameTasks w →
      s.site.world.1.InHand s.worker.phase →
      (noteReturn s.site n c).world.1.InHand w.phase := by
    intro s w n c hsame hin
    rwa [world_noteReturn, Worker.phase_congr hsame.phases]
  induction h with
  | new => trivial
  | @move s s' h hm _ ih =>
    obtain ⟨before, cur, ht⟩ := h.isTraced
    cases hm with
    | step hs =>
      cases hs with
      | run t hstep =>
        cases step_cases hstep with
        | loop hl =>
          exact ih.stepLoop ht.traced.inCycle ht.engaged.one.earlier hl
        | @call i site w hc =>
          show site.world.1.InHand w.phase
          rw [MemoryPlatform.memory_stepCall hc,
            Worker.phase_congr (Worker.stepCall_phases hc).1]
          exact ih
        | caller _ hw => exact hcaller _ _ (.resume hw) ih
        | destroy hrel => cases h.released.symm.trans hrel
      | wait => exact ih
    | start _ hs =>
      obtain ⟨w, hw, rfl⟩ := Option.map_eq_some_iff.1 hs
      have hph : w.phase = .spawned := by
        rw [Worker.phase_eq, (Worker.tasks_start? hw).2.1,
          List.getLast?_concat]
        rfl
      show s.site.world.1.InHand w.phase
      rw [hph]
      trivial
    | stop => exact hcaller _ _ (.beginStop _) ih
    | abort => exact hcaller _ _ (.beginAbort _) ih
    | release | clock => exact ih
  | giveUp _ _ ih => exact ih
  | outside _ _ hw ih => exact ih.of_extends hw

end Managed

/-- While the worker is brought to a halt, it does not touch the
memory. -/
lemma Aborting.memory_step (ha : Aborting s₀ h s)
    (hs : (machine H.platform).Step s s') :
    s'.site.world.1 = s.site.world.1 := by
  cases hs with
  | wait => rfl
  | run t ht =>
    cases step_cases ht with
    | loop hl =>
      obtain ⟨-, rfl, -⟩ := ha.stepLoop hl
      rfl
    | call hc => exact MemoryPlatform.memory_stepCall hc
    | caller => exact congrArg Prod.fst (world_noteReturn _ _ _)
    | destroy => rfl

/-- Whatever happens after the abort. -/
lemma Aborting.leftAlone (hl : LeftAlone H s s')
    (ha : Aborting s₀ h s) :
    (∃ h', Aborting s₀ h' s')
      ∧ s.site.world.1.Extends s'.site.world.1 := by
  induction hl with
  | refl => exact ⟨⟨h, ha⟩, .refl _⟩
  | step _ hs ih =>
    obtain ⟨⟨h', ha'⟩, hext⟩ := ih
    exact ⟨ha'.step hs, ha'.memory_step hs ▸ hext⟩
  | pass _ hidle now ih =>
    obtain ⟨⟨h', ha'⟩, hext⟩ := ih
    exact ⟨⟨h', ha'.clock hidle now⟩, hext⟩
  | outside _ world hw ih =>
    obtain ⟨⟨h', ha'⟩, hext⟩ := ih
    exact ⟨⟨h', ha'.withWorld world⟩, hext.trans hw⟩

/-- What the next start finds of a worker that was left still. -/
structure Untouched (s s' : WorkerSystem (MemoryPlatform × τ)) : Prop where
  still : IsStill s'.worker
  cores : s'.worker.cores = s.worker.cores
  memory : s.site.world.1.Extends s'.site.world.1
  journal : OnlyReturns s.site.journal s'.site.journal

lemma untouched_of_unstarted (h : IsStill s.worker)
    (hu : Unstarted H s s') : Untouched s s' := by
  induction hu with
  | refl => exact ⟨h, rfl, .refl _, .refl _⟩
  | move _ hm ih =>
    have hr := rests_of_move ih.still hm
    refine ⟨hr.still, hr.cores.trans ih.cores, ?_,
      ih.journal.trans hr.journal⟩
    rw [hr.world]
    exact ih.memory
  | outside _ world hw ih =>
    exact ⟨ih.still, ih.cores, ih.memory.trans hw, ih.journal⟩

/-- What a worker shows that was told to abort in `s₀`. -/
structure Severed (H : Host τ)
    (s₀ s : WorkerSystem (MemoryPlatform × τ)) : Prop where
  /-- Whoever told it to returns, before the clock moves on. -/
  returns : (machine H.platform).Inevitable
    (fun s => hasReturned s₀.callers.length s = true) s
  now : hasReturned s₀.callers.length s = false →
    s.site.now = s₀.site.now
  /-- Then neither a loop nor a call of a handler goes on. -/
  gone : hasReturned s₀.callers.length s = true →
    (∀ i, s.worker.loopIsOver i = true)
      ∧ ∀ i, s.worker.callIsOver i = true
  /-- The platform is not called any more, and no handler either, except
  one that was to be called and had not begun. -/
  calls : s.site.journal.calls = s₀.site.journal.calls
    ∨ ∃ c ∈ s₀.worker.cores, c.phase = .spawned
      ∧ s.site.journal.calls
        = s₀.site.journal.calls ++ [.execute c.handler c.operation]
  /-- No operation is touched. -/
  memory : s₀.site.world.1.Extends s.site.world.1
  /-- The operation that the loop had in hand is pending if its first write
  had not landed, and is being executed, as was written for it last,
  otherwise. -/
  inHand : s.site.world.1.InHand s₀.worker.phase
  /-- All of this stays so until the next start, and no task takes a
  step. -/
  final : hasReturned s₀.callers.length s = true → ∀ s', Unstarted H s s' →
    s'.worker.cores = s.worker.cores
      ∧ ((∀ i, s'.worker.loopIsOver i = true)
        ∧ ∀ i, s'.worker.callIsOver i = true)
      ∧ s.site.world.1.Extends s'.site.world.1
      ∧ OnlyReturns s.site.journal s'.site.journal

/-- A worker that is managed and for which nobody waits is told to abort,
whatever its loop and its calls are doing.  However it goes on, everything
comes to an end at that instant, and nothing is written. -/
theorem severed_of_abort (h : Managed H site table interval s₀)
    (hw : s₀.NobodyWaits) :
    ∃ before cur, s₀.site.journal.calls = before ++ cur
      ∧ InCycle table s₀.worker.cores cur s₀.worker.phase
      ∧ ∀ s, LeftAlone H s₀.abort s → Severed H s₀ s := by
  obtain ⟨before, cur, ht⟩ := h.isTraced
  have hin := ht.traced.inCycle
  rw [ht.table] at hin
  refine ⟨before, cur, ht.traced.calls, hin, fun s hs => ?_⟩
  have habort := aborting_abort ht.engaged hw h.released
  obtain ⟨⟨halt, ha⟩, hext⟩ := habort.leftAlone hs
  have hext₀ : s₀.site.world.1.Extends s.site.world.1 := by
    have hsame : s₀.abort.site.world = s₀.site.world :=
      world_noteReturn _ _ _
    rwa [hsame] at hext
  have hstill : hasReturned s₀.callers.length s = true →
      IsStill s.worker := fun hret => ha.isStill (ha.hasReturned_iff.1 hret)
  exact {
    returns := ha.inevitable
    now := fun hret => ha.now fun heq => by
      rw [ha.hasReturned_iff.2 heq] at hret
      cases hret
    gone := fun hret => (hstill hret).isOver
    calls := ha.begun.imp_right (·.1)
    memory := hext₀
    inHand := h.inHand.of_extends hext₀
    final := fun hret s' hs' =>
      have hu := untouched_of_unstarted (hstill hret) hs'
      ⟨hu.cores, hu.still.isOver, hu.memory, hu.journal⟩ }

/-- A run of the tasks leaves the worker alone. -/
lemma LeftAlone.of_runs (h : (machine H.platform).Runs s s') :
    LeftAlone H s s' := by
  induction h with
  | refl => exact .refl
  | tail _ hs ih => exact ih.step hs

end Memory

/-! ### An abort in the middle of a call -/

/-- Surroundings where every call of a handler takes a while. -/
def unhurried : Host Unit where
  delay _ _ := 0
  execute _ _ _ := ({ delay := 50 }, ())

/-- A worker whose handler is at work, and whose owner has told it to stop
and has given up waiting. -/
def busyWorker : WorkerSystem (MemoryPlatform × Unit) :=
  let go (s : WorkerSystem (MemoryPlatform × Unit)) (t : WorkerTask) :=
    (step unhurried.platform s t).getD s
  ([WorkerTask.loop 0, .loop 0, .call 0].foldl go pollingWorker).stop.giveUp 0

lemma managed_busyWorker : ∃ site table interval,
    Managed unhurried site table interval busyWorker := by
  obtain ⟨s₀, s₁, h₀, h₁, hr₀, hr₁, heq⟩ :
      ∃ s₀ s₁ : WorkerSystem (MemoryPlatform × Unit),
        WorkerSystem.start? { site := pollingWorker.site
                              worker := .new pollingWorker.worker.table
                                pollingWorker.worker.interval } = some s₀
        ∧ step unhurried.platform s₀ (.loop 0) = some s₁
        ∧ s₀.released = false ∧ s₁.released = false
        ∧ s₁ = pollingWorker := ⟨_, _, rfl, rfl, rfl, rfl, rfl⟩
  obtain ⟨s₂, s₃, s₄, h₂, h₃, h₄, hr₂, hr₃, hr₄, hw, hbusy⟩ :
      ∃ s₂ s₃ s₄ : WorkerSystem (MemoryPlatform × Unit),
        step unhurried.platform s₁ (.loop 0) = some s₂
        ∧ step unhurried.platform s₂ (.loop 0) = some s₃
        ∧ step unhurried.platform s₃ (.call 0) = some s₄
        ∧ s₂.released = false ∧ s₃.released = false ∧ s₄.released = false
        ∧ s₄.stop.callers[0]? = some (.awaitingExit 0)
        ∧ s₄.stop.giveUp 0 = busyWorker := by
    rw [heq]
    exact ⟨_, _, _, rfl, rfl, rfl, rfl, rfl, rfl, rfl, rfl⟩
  have hstart : Managed unhurried pollingWorker.site _ _ s₀ :=
    .move .new (.start (fun c hc => by cases hc) h₀) hr₀
  have hpoll := (hstart.move (.step (.run (.loop 0) h₁)) hr₁).move
    (.step (.run (.loop 0) h₂)) hr₂
  have hcall := (hpoll.move (.step (.run (.loop 0) h₃)) hr₃).move
    (.step (.run (.call 0) h₄)) hr₄
  exact ⟨_, _, _, hbusy ▸ (hcall.move (.stop _) hr₄).giveUp hw⟩

/-- The handler is cut off, and its operation is left being executed. -/
theorem severed_busyWorker :
    let s := (machine unhurried.platform).settle 40 busyWorker.abort
    (∃ site table interval,
        Managed unhurried site table interval busyWorker)
      ∧ busyWorker.NobodyWaits
      ∧ (∃ o, busyWorker.worker.phase = .executing o 0 ∧ o.id = "1")
      ∧ hasReturned 1 s = true
      ∧ ((∀ i, s.worker.loopIsOver i = true)
        ∧ ∀ i, s.worker.callIsOver i = true)
      ∧ s.site.journal.calls = busyWorker.site.journal.calls
      ∧ (s.site.world.1.operation? "1").map (·.status) = some .executing
      ∧ (s.site.world.1.operation? "2").map (·.status) = some .pending := by
  intro s
  have hw : busyWorker.NobodyWaits := by
    intro c hc
    have hcallers : busyWorker.callers = [.returned] := by decide +kernel
    rw [hcallers] at hc
    exact List.mem_singleton.1 hc
  obtain ⟨site, table, interval, h⟩ := managed_busyWorker
  obtain ⟨before, cur, -, -, hall⟩ := severed_of_abort h hw
  have hg := hall s (.of_runs (Machine.settle_runs 40 _))
  have hret : hasReturned 1 s = true := by decide +kernel
  have hnone : ∀ c ∈ busyWorker.worker.cores, c.phase ≠ .spawned := by
    decide +kernel
  obtain ⟨o, hph, hid⟩ :
      ∃ o, busyWorker.worker.phase = .executing o 0 ∧ o.id = "1" :=
    ⟨_, rfl, rfl⟩
  have hshown := hg.inHand
  rw [hph] at hshown
  obtain ⟨⟨o₁, ho₁, hst⟩, -⟩ := hshown
  refine ⟨⟨site, table, interval, h⟩, hw, ⟨o, hph, hid⟩, hret, hg.gone hret,
    hg.calls.resolve_right fun ⟨c, hc, hsp, _⟩ => hnone c hc hsp, ?_, ?_⟩
  · rw [← hid, ho₁, Option.map_some, hst]
  · have hpending : busyWorker.site.world.1.operation? "2"
        = some ((Operation.new "2").withFragment Kind.restart (.object [])) :=
      rfl
    rw [hg.memory.operation? hpending]
    rfl

end WorkerSystem

end RemoteOps
