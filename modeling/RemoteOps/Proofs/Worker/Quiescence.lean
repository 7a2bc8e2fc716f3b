/-
Any number of callers who stop and abort a worker at once.

When one of them has returned, the loop has exited.  A stop waits for
nothing else: beside an abort it may return while a call of a handler is
still to be cut off.  When nobody aborts any more, no call is open.

* `WorkerSystem.Beset`: what can come of a worker that is stopped and
  aborted and not started again;
* `WorkerSystem.quiescent_of_beset`: what a caller finds who has returned;
* `WorkerSystem.exists_openCall`: a stop that returns too early beside an
  abort.
-/
import RemoteOps.Proofs.Worker.Abort

namespace RemoteOps

/-- Whether a caller is aborting. -/
def Halt.aborts : Halt → Bool
  | .abortingLoop _ | .abortingCall _ => true
  | .awaitingExit _ | .returned => false

namespace WorkerSystem

variable {σ : Type} {p : Platform σ} {site : Site σ} {table : HandlerTable}
  {interval : Span} {s s' s₀ : WorkerSystem σ} {before cur : List Event}

/-- What can come of a worker that is stopped and aborted by any number of
callers and not started again, while its owner holds on to it. -/
inductive Beset (p : Platform σ) (s₀ : WorkerSystem σ) :
    WorkerSystem σ → Prop where
  | refl : Beset p s₀ s₀
  | move {s s' : WorkerSystem σ} (h : Beset p s₀ s)
    (hm : Move p (fun _ => False) s s') (hr : s'.released = false) :
    Beset p s₀ s'

/-- Whoever has called since some others did and has returned has found
that the loop has exited. -/
def LoopAwaited (n : Nat) (s : WorkerSystem σ) : Prop :=
  ∀ k, n ≤ k → s.callers[k]? = some .returned → s.worker.phase = .exited

/-- A caller who returns at once finds no loop. -/
lemma LoopAwaited.join {n : Nat} {w : Worker} {h : Halt}
    (hl : s.LoopAwaited n) (hsame : s.worker.SameTasks w)
    (hret : h = .returned → s.worker.phase = .exited) :
    (s.join (w, h)).LoopAwaited n := by
  intro k hk hc
  show w.phase = .exited
  rw [Worker.phase_congr hsame.phases]
  have hc' : (s.callers ++ [h])[k]? = some .returned := hc
  rw [List.getElem?_append] at hc'
  split at hc'
  · exact hl k hk hc'
  · exact hret (List.mem_singleton.1 (List.mem_of_getElem? hc')).symm

lemma LoopAwaited.move {n : Nat} (hm : Move p (fun _ => False) s s')
    (hr : s'.released = false) (he : s.worker.Engaged s.callers)
    (h : s.LoopAwaited n) : s'.LoopAwaited n := by
  cases hm with
  | step hs =>
    cases hs with
    | wait => exact h
    | run t ht =>
      cases step_cases ht with
      | loop hl =>
        -- a loop that takes a step is alive, so nobody has returned
        intro k hk hc
        have hex := h k hk hc
        obtain ⟨l, hget, hne, -⟩ := Worker.stepLoop_cases hl
        have hlast := (Worker.getLast?_of_live he.one.earlier hget hne).1
        exact absurd (Worker.phase_of_getLast? hlast ▸ hex) hne
      | call hc =>
        intro k hk hret
        exact (Worker.phase_congr (Worker.stepCall_phases hc).1).trans
          (h k hk hret)
      | caller hc hw =>
        intro k _ _
        exact (Worker.phase_congr (Worker.SameTasks.resume hw).phases).trans
          (Worker.phase_of_forall_exited
            (he.one.resume (List.mem_of_getElem? hc) hw).1)
      | destroy hrel => cases hr.symm.trans hrel
  | start hm => exact hm.elim
  | stop =>
    refine h.join (h := s.worker.beginStop.2) (.beginStop s.worker)
      fun hret => ?_
    rcases s.worker.beginStop_eq.2 with ⟨-, hnil⟩ | ⟨i, hi⟩
    · exact Worker.phase_of_forall_exited (by simp [hnil])
    · rw [hi] at hret
      cases hret
  | abort =>
    exact h.join (.beginAbort s.worker) fun hret =>
      Worker.phase_of_forall_exited
        (by simp [Worker.phases_of_beginAbort hret])
  | release | clock => exact h

/-- Whoever stops or aborts a worker that is not started again: once the
call has returned, the loop has exited, and a call of a handler is open
only while somebody is aborting. -/
theorem quiescent_of_beset (h₀ : Held p site table interval s₀)
    (h : Beset p s₀ s) {k : Nat} (hk : s₀.callers.length ≤ k)
    (hret : s.callers[k]? = some .returned) :
    (∀ i, s.worker.loopIsOver i = true)
      ∧ ((∃ c ∈ s.callers, c.aborts = true)
        ∨ ∀ n, s.worker.callIsOver n = true) := by
  obtain ⟨⟨before, cur, ht⟩, hl⟩ :
      (∃ before cur, IsTraced table before cur s)
        ∧ s.LoopAwaited s₀.callers.length := by
    clear hret
    induction h with
    | refl =>
      refine ⟨h₀.isTraced, fun k hk hc => ?_⟩
      rw [List.getElem?_eq_none hk] at hc
      cases hc
    | move _ hm hr ih =>
      obtain ⟨⟨before, cur, ht⟩, hl⟩ := ih
      exact ⟨ht.move (hm.mono fun _ hno => hno.elim) hr,
        hl.move hm hr ht.engaged⟩
  have he := ht.engaged
  have hex := hl k hk hret
  refine ⟨Worker.loopIsOver_of_forall_exited
    (Worker.forall_exited he.one.earlier hex), ?_⟩
  by_cases ha : ∃ c ∈ s.callers, c.aborts = true
  · exact .inl ha
  · exact .inr (Worker.callIsOver_of_forall_isOver (he.isOver_of_exited hex
      (fun i hi => ha ⟨_, hi, rfl⟩) fun n hn => ha ⟨_, hn, rfl⟩))

/-- A stop beside an abort: it returns when the loop was cut off, while the
handler is at work that is to be cut off next. -/
theorem exists_openCall :
    ∃ s₀ s : WorkerSystem (MemoryPlatform × Unit),
      (∃ site table interval,
          Held unhurried.platform site table interval s₀)
        ∧ Beset unhurried.platform s₀ s
        ∧ s.callers = [.returned, .abortingLoop 0]
        ∧ s.worker.callIsOver 0 = false := by
  set p := unhurried.platform with hp
  -- the loop is at work, and its handler has begun
  obtain ⟨s₁, s₂, s₃, s₄, s₅, h₁, h₂, h₃, h₄, h₅, hr₁, hr₂, hr₃, hr₄, hr₅,
      s₆, s₇, h₆, h₇, hr₆, hr₇, hcallers, hopen⟩ :
      ∃ s₁ s₂ s₃ s₄ s₅ : WorkerSystem (MemoryPlatform × Unit),
        WorkerSystem.start? { site := pollingWorker.site
                              worker := .new pollingWorker.worker.table
                                pollingWorker.worker.interval } = some s₁
        ∧ step p s₁ (.loop 0) = some s₂ ∧ step p s₂ (.loop 0) = some s₃
        ∧ step p s₃ (.loop 0) = some s₄ ∧ step p s₄ (.call 0) = some s₅
        ∧ s₁.released = false ∧ s₂.released = false ∧ s₃.released = false
        ∧ s₄.released = false ∧ s₅.released = false
        -- the loop is cut off, and the stop goes on
        ∧ ∃ s₆ s₇ : WorkerSystem (MemoryPlatform × Unit),
          step p s₅.stop.abort (.loop 0) = some s₆
          ∧ step p s₆ (.caller 0) = some s₇
          ∧ s₆.released = false ∧ s₇.released = false
          ∧ s₇.callers = [.returned, .abortingLoop 0]
          ∧ s₇.worker.callIsOver 0 = false :=
    ⟨_, _, _, _, _, rfl, rfl, rfl, rfl, rfl, rfl, rfl, rfl, rfl, rfl, _, _,
      rfl, rfl, rfl, rfl, rfl, rfl⟩
  have hstart : Held p pollingWorker.site pollingWorker.worker.table
      pollingWorker.worker.interval s₁ :=
    .move .new (.start (fun c hc => by cases hc) h₁) hr₁
  have hheld := (((hstart.move (.step (.run (.loop 0) h₂)) hr₂).move
    (.step (.run (.loop 0) h₃)) hr₃).move (.step (.run (.loop 0) h₄))
    hr₄).move (.step (.run (.call 0) h₅)) hr₅
  have hcalled : Beset p s₅ s₅.stop.abort :=
    .move (.move .refl (.stop _) hr₅) (.abort _) hr₅
  have hcut := (hcalled.move (.step (.run (.loop 0) h₆)) hr₆).move
    (.step (.run (.caller 0) h₇)) hr₇
  exact ⟨s₅, s₇, ⟨_, _, _, hheld⟩, hcut, hcallers, hopen⟩

end WorkerSystem

end RemoteOps
