/-
What becomes of one operation is no concern of the others.

Two families of handlers answer at once and differ only in what they
answer for one operation.  A worker polls, writes and calls handlers in
the same way over both of them, step by step; all that differs is which
terminal status it writes for that operation, and the reason.

* `Worker.Alike.exists_stepLoop`, `Worker.Alike.exists_stepCall`: a step of
  the worker does not look at what is hidden;
* `WorkerSystem.Unattended.step_unique`: one task at a time can run;
* `WorkerSystem.Twins.step`: workers that were alike are so after a step;
* `WorkerSystem.Twins.exists_walk`: one of them runs as far as the other;
* `WorkerSystem.isolated_of_walks`: runs of one length over two families.
-/
import RemoteOps.Proofs.Schedule
import RemoteOps.Proofs.Worker.Hidden
import RemoteOps.Proofs.Worker.IssueOrder

namespace RemoteOps

variable {τ : Type}

/-! ### The worker -/

namespace Worker

variable {a : String} {w w' : Worker}

lemma hide_setLoop (a : String) (w : Worker) (i : Nat) (l : PollLoop)
    (ph : LoopPhase) : (w.setLoop i l ph).hide a
      = (w.hide a).setLoop i (l.hide a) (ph.hide a) := by
  simp only [setLoop, hide, List.map_set]
  rfl

lemma hide_spawnCall (a : String) (w : Worker) (h : Handler)
    (t : TypedOperation) :
    (w.spawnCall h t).hide a = (w.hide a).spawnCall h t := by
  have hnew : HandlerCall.hide a { handler := h, operation := t }
      = { handler := h, operation := t } := by
    unfold HandlerCall.hide
    split <;> rfl
  simp only [spawnCall, hide, List.map_append, List.map_singleton, hnew,
    List.length_map]

/-- How a loop goes on with the answer to its poll. -/
def answer {σ : Type} (p : Platform σ) (s : Site σ) (w : Worker) :
    Except Failure (Option Operation) → Site σ × LoopPhase
  | .ok (some o) => dispatch p s w o
  | .ok none => (s, pause s w)
  | .error _ => failCycle s w

lemma wakes_hide (a : String) (w : Worker) : (w.hide a).wakes = w.wakes := by
  have hloop : wake? ∘ PollLoop.hide a = wake? := by
    funext l
    cases hph : l.phase <;> simp [wake?, PollLoop.hide, LoopPhase.hide, hph]
  have hcall : callWake? ∘ HandlerCall.hide a = callWake? := by
    funext c
    show callWake? (c.hide a) = callWake? c
    unfold HandlerCall.hide
    split
    · cases hph : c.phase with
      | ended r => cases r <;> simp [callWake?, CallPhase.hide, hph]
      | _ => simp [callWake?, CallPhase.hide, hph]
    · rfl
  show (w.loops.map _).filterMap wake? ++ (w.calls.map _).filterMap callWake?
    = _
  rw [List.filterMap_map, List.filterMap_map, hloop, hcall]
  rfl

/-- Workers that show the same have loops that show the same. -/
lemma exists_loop_of_hide (h : w'.hide a = w.hide a) {i : Nat}
    {l : PollLoop} (hl : w.loops[i]? = some l) :
    ∃ l', w'.loops[i]? = some l' ∧ l'.hide a = l.hide a := by
  have hget := congrArg (fun w : Worker => w.loops[i]?) h
  simp only [hide, List.getElem?_map, hl, Option.map_some] at hget
  exact Option.map_eq_some_iff.1 hget

lemma exists_call_of_hide (h : w'.hide a = w.hide a) {i : Nat}
    {c : HandlerCall} (hc : w.calls[i]? = some c) :
    ∃ c', w'.calls[i]? = some c' ∧ c'.hide a = c.hide a := by
  have hget := congrArg (fun w : Worker => w.calls[i]?) h
  simp only [hide, List.getElem?_map, hc, Option.map_some] at hget
  exact Option.map_eq_some_iff.1 hget

end Worker

/-- Two workers on their sites that differ in what is hidden. -/
structure Worker.Alike (a : String) (s : Site (MemoryPlatform × τ))
    (w : Worker) (s' : Site (MemoryPlatform × τ)) (w' : Worker) : Prop where
  site : s.Alike a s'
  worker : w'.hide a = w.hide a

namespace Worker.Alike

variable {a : String} {s s' s₁ : Site (MemoryPlatform × τ)}
  {w w' w₁ : Worker} {i : Nat} {l l' : PollLoop} {ph ph' : LoopPhase}
  (P : FaultPattern τ) (f f' : τ → Handler → TypedOperation → Outcome)

lemma symm (h : Alike a s w s' w') : Alike a s' w' s w :=
  ⟨h.site.symm, h.worker.symm⟩

lemma table (h : Alike a s w s' w') : w'.table = w.table :=
  (congrArg Worker.table h.worker :)

lemma interval (h : Alike a s w s' w') : w'.interval = w.interval :=
  (congrArg Worker.interval h.worker :)

lemma signals (h : Alike a s w s' w') : w'.signals = w.signals :=
  (congrArg Worker.signals h.worker :)

lemma running (h : Alike a s w s' w') : w'.running = w.running :=
  (congrArg Worker.running h.worker :)

lemma length_calls (h : Alike a s w s' w') :
    w'.calls.length = w.calls.length := by
  have hlen := congrArg (fun w : Worker => w.calls.length) h.worker
  simpa [hide] using hlen

/-- Something else was counted. -/
lemma of_site (h : Alike a s w s' w') {s₂ s₂' : Site (MemoryPlatform × τ)}
    (hs : s₂.Alike a s₂') : Alike a s₂ w s₂' w' := ⟨hs, h.worker⟩

/-- The loops come to phases that show the same. -/
lemma setLoop (h : Alike a s w s' w') (hl : l'.hide a = l.hide a)
    (hph : ph'.hide a = ph.hide a) :
    Alike a s (w.setLoop i l ph) s' (w'.setLoop i l' ph') where
  site := h.site
  worker := by rw [hide_setLoop, hide_setLoop, h.worker, hl, hph]

/-- Nothing is in flight any more. -/
lemma clear (h : Alike a s w s' w') :
    Alike a s { w with inFlight := none } s'
      { w' with inFlight := none } where
  site := h.site
  worker :=
    (congrArg (fun w : Worker => { w with inFlight := none }) h.worker :)

lemma spawnCall (h : Alike a s w s' w') (hd : Handler)
    (t : TypedOperation) :
    Alike a s (w.spawnCall hd t) s' (w'.spawnCall hd t) where
  site := h.site
  worker := by rw [hide_spawnCall, hide_spawnCall, h.worker]

/-! ### The parts of a cycle -/

lemma nextCycle (h : Alike a s w s' w') :
    Worker.nextCycle (P.platform f') s' w'
      = Worker.nextCycle (P.platform f) s w := by
  rw [Worker.nextCycle, Worker.nextCycle, h.running,
    h.site.due P f f' .poll]

lemma pause (h : Alike a s w s' w') :
    Worker.pause s' w' = Worker.pause s w := by
  rw [Worker.pause, Worker.pause, h.interval, h.site.now]

lemma failCycle (h : Alike a s w s' w') :
    (Worker.failCycle s' w').2 = (Worker.failCycle s w).2
      ∧ (Worker.failCycle s w).1.Alike a (Worker.failCycle s' w').1 := by
  have hcount : (s.note (.counted .pollErrors)).Alike a
      (s'.note (.counted .pollErrors)) := h.site.note₂ rfl rfl
  exact ⟨(h.of_site hcount).pause, hcount⟩

lemma endCycle (h : Alike a s w s' w') (r : Except Failure Unit) :
    (Worker.endCycle (P.platform f') s' w' r).2
        = (Worker.endCycle (P.platform f) s w r).2
      ∧ (Worker.endCycle (P.platform f) s w r).1.Alike a
        (Worker.endCycle (P.platform f') s' w' r).1 := by
  cases r with
  | ok u => exact ⟨h.nextCycle P f f', h.site⟩
  | error e => exact h.failCycle

lemma reject (h : Alike a s w s' w') (o : Operation) (reason : String) :
    (Worker.reject (P.platform f') s' w' o reason).2
        = (Worker.reject (P.platform f) s w o reason).2
      ∧ (Worker.reject (P.platform f) s w o reason).1.Alike a
        (Worker.reject (P.platform f') s' w' o reason).1 := by
  have hcount : (s.note (.counted (.operations .unsupported))).Alike a
      (s'.note (.counted (.operations .unsupported))) :=
    h.site.note₂ rfl rfl
  rw [Worker.reject, Worker.reject]
  split
  · refine ⟨?_, hcount⟩
    dsimp only
    rw [hcount.due P f f' .status]
  · exact (h.of_site hcount).failCycle

/-- An operation that was handed out is taken up in the same way. -/
lemma dispatch (h : Alike a s w s' w') (o : Operation) :
    (Worker.dispatch (P.platform f') s' w' o).2
        = (Worker.dispatch (P.platform f) s w o).2
      ∧ (Worker.dispatch (P.platform f) s w o).1.Alike a
        (Worker.dispatch (P.platform f') s' w' o).1 := by
  rw [Worker.dispatch, Worker.dispatch, h.table]
  cases Matching.convert? o w.table.supportedKinds with
  | none => exact h.reject P f f' o _
  | some t =>
    dsimp only
    cases w.table.handlerFor? t.kind with
    | none => exact h.reject P f f' o _
    | some hd =>
      dsimp only
      split
      · refine ⟨?_, h.site⟩
        dsimp only
        rw [h.site.due P f f' .status]
      · exact h.failCycle

/-- What a call has come to is reported in a way that shows the same. -/
lemma conclude (h : Alike a s w s' w') {o : Operation}
    (ho : o.status = .executing) {r r' : Option Outcome}
    (hr : r' = r ∨ o.id = a) :
    (Worker.conclude (P.platform f') s' w' o r').2.hide a
        = (Worker.conclude (P.platform f) s w o r).2.hide a
      ∧ (Worker.conclude (P.platform f) s w o r).1.Alike a
        (Worker.conclude (P.platform f') s' w' o r').1 := by
  have hcount : (s.note (.counted (.operations (report r).verdict))).Alike a
      (s'.note (.counted (.operations (report r').verdict))) :=
    h.site.note₂ rfl rfl
  rw [Worker.conclude, Worker.conclude,
    Operation.transitionTo_terminal ho (report_isTerminal r),
    Operation.transitionTo_terminal ho (report_isTerminal r')]
  refine ⟨?_, hcount⟩
  dsimp only
  rw [LoopPhase.hide, LoopPhase.hide, hcount.due P f f' .status]
  rcases hr with rfl | hid
  · rfl
  · have hhide : ∀ r, Operation.hide a { o with
        status := (report r).status, failureReason := (report r).reason }
        = { o with status := .failed, failureReason := none } := fun r =>
      if_pos ⟨hid, report_isTerminal r⟩
    rw [hhide, hhide]

/-- The last write of a cycle. -/
lemma write (h : Alike a s w s' w') (hl : l'.hide a = l.hide a)
    {o o' : Operation} (ho : o'.hide a = o.hide a) :
    Alike a
      (Worker.endCycle (P.platform f) (s.writeStatus (P.platform f) o).2 w
        (s.writeStatus (P.platform f) o).1).1
      (w.setLoop i l (Worker.endCycle (P.platform f)
        (s.writeStatus (P.platform f) o).2 w
        (s.writeStatus (P.platform f) o).1).2)
      (Worker.endCycle (P.platform f') (s'.writeStatus (P.platform f') o').2
        w' (s'.writeStatus (P.platform f') o').1).1
      (w'.setLoop i l' (Worker.endCycle (P.platform f')
        (s'.writeStatus (P.platform f') o').2 w'
        (s'.writeStatus (P.platform f') o').1).2) := by
  obtain ⟨hres, hsite⟩ := h.site.writeStatus P f f' ho
  obtain ⟨hph, hs⟩ := (h.of_site hsite).endCycle P f f'
    (s.writeStatus (P.platform f) o).1
  rw [hres]
  exact (h.of_site hs).setLoop hl (congrArg _ hph)

/-- A poll was answered, and the loop goes on with what it got. -/
lemma answer (h : Alike a s w s' w') (r : Except Failure (Option Operation)) :
    (Worker.answer (P.platform f') s' w' r).2
        = (Worker.answer (P.platform f) s w r).2
      ∧ (Worker.answer (P.platform f) s w r).1.Alike a
        (Worker.answer (P.platform f') s' w' r).1 := by
  match r with
  | .ok (some o) => exact h.dispatch P f f' o
  | .ok none => exact ⟨h.pause, h.site⟩
  | .error _ => exact h.failCycle

/-- The call that a loop waits for has come to its end in both. -/
lemma exists_result (h : Alike a s w s' w') {n : Nat} {r : Option Outcome}
    (hr : w.calls[n]?.bind HandlerCall.result? = some r) :
    ∃ c r', w.calls[n]? = some c
      ∧ w'.calls[n]?.bind HandlerCall.result? = some r'
      ∧ (r' = r ∨ c.operation.id = a) := by
  obtain ⟨c, hc, hres⟩ := Option.bind_eq_some_iff.1 hr
  obtain ⟨c', hc', hhide⟩ := exists_call_of_hide h.worker hc
  obtain ⟨r', hr', hsame⟩ := HandlerCall.exists_result? hhide hres
  exact ⟨c, r', hc, by rw [hc', Option.bind_some, hr'], hsame⟩

/-- A step of a loop that is not to be cut off. -/
lemma exists_runLoop (h : Alike a s w s' w') (hl : l'.hide a = l.hide a)
    (hexec : ∀ o n, l.phase = .executing o n → o.status = .executing
      ∧ ∀ c, w.calls[n]? = some c → c.operation.id = o.id)
    (hr : runLoop (P.platform f) s w i l = some (s₁, w₁)) :
    ∃ s₁' w₁', runLoop (P.platform f') s' w' i l' = some (s₁', w₁')
      ∧ Alike a s₁ w₁ s₁' w₁' := by
  have hph : l'.phase.hide a = l.phase.hide a :=
    (congrArg PollLoop.phase hl :)
  -- only a loop that reports an outcome may be in another phase
  have hsame : (∀ o due, l.phase ≠ .reporting o due) → l'.phase = l.phase :=
    LoopPhase.eq_of_hide hph
  cases hp : l.phase with
  | spawned =>
    have hp' := hp ▸ hsame (by simp [hp])
    simp only [runLoop, hp] at hr
    cases hr
    simp only [runLoop, hp']
    exact ⟨_, _, rfl, h.setLoop hl (by rw [h.nextCycle P f f'])⟩
  | polling due =>
    have hp' := hp ▸ hsame (by simp [hp])
    simp only [runLoop, hp] at hr
    split at hr
    · next hdue =>
      cases hr
      obtain ⟨hres, hsite⟩ := h.site.poll P f f'
      simp only [runLoop, hp', h.site.now, if_pos hdue, hres]
      obtain ⟨hph, hs⟩ := (h.of_site hsite).answer P f f'
        (s.poll (P.platform f)).1
      exact ⟨_, _, rfl, (h.of_site hs).setLoop hl (congrArg _ hph)⟩
    · cases hr
  | rejecting o due =>
    have hp' := hp ▸ hsame (by simp [hp])
    simp only [runLoop, hp] at hr
    split at hr
    · next hdue =>
      cases hr
      simp only [runLoop, hp', h.site.now, if_pos hdue]
      exact ⟨_, _, rfl, h.write P f f' hl rfl⟩
    · cases hr
  | reporting o due =>
    obtain ⟨o', hp', ho⟩ := LoopPhase.exists_reporting (hp ▸ hph)
    simp only [runLoop, hp] at hr
    split at hr
    · next hdue =>
      cases hr
      simp only [runLoop, hp', h.site.now, if_pos hdue]
      exact ⟨_, _, rfl, h.write P f f' hl ho⟩
    · cases hr
  | claiming o t hd due =>
    have hp' := hp ▸ hsame (by simp [hp])
    simp only [runLoop, hp] at hr
    split at hr
    · next hdue =>
      obtain ⟨hres, hsite⟩ := h.site.writeStatus P f f'
        (rfl : o.hide a = o.hide a)
      have hwrite := h.of_site hsite
      simp only [runLoop, hp', h.site.now, if_pos hdue, hres]
      split at hr
      · cases hr
        exact ⟨_, _, rfl, (hwrite.spawnCall hd t).setLoop hl
          (by rw [h.length_calls])⟩
      · cases hr
        obtain ⟨hph, hs⟩ := hwrite.failCycle
        exact ⟨_, _, rfl, (h.of_site hs).setLoop hl (congrArg _ hph)⟩
    · cases hr
  | executing o n =>
    have hp' := hp ▸ hsame (by simp [hp])
    obtain ⟨ho, hid⟩ := hexec o n hp
    simp only [runLoop, hp] at hr
    split at hr
    · next r hres =>
      cases hr
      obtain ⟨c, r', hc, hres', hsame⟩ := h.exists_result hres
      obtain ⟨hph, hs⟩ := h.clear.conclude P f f' ho
        (hsame.imp_right fun heq => (hid c hc).symm.trans heq)
      simp only [runLoop, hp', hres']
      exact ⟨_, _, rfl, (h.clear.of_site hs).setLoop hl hph⟩
    · cases hr
  | idle due =>
    have hp' := hp ▸ hsame (by simp [hp])
    have hseen : l'.seen = l.seen := (congrArg PollLoop.seen hl :)
    have haborted : l'.aborted = l.aborted :=
      (congrArg PollLoop.aborted hl :)
    simp only [runLoop, hp] at hr
    split at hr
    · next hdue =>
      cases hr
      simp only [runLoop, hp', h.site.now, h.signals, hseen, if_pos hdue]
      exact ⟨_, _, rfl, h.setLoop (by rw [haborted])
        (by rw [h.nextCycle P f f'])⟩
    · cases hr
  | exited =>
    simp only [runLoop, hp] at hr
    cases hr

/-- A step of a loop. -/
theorem exists_stepLoop (h : Alike a s w s' w')
    (hexec : ∀ l, w.loops[i]? = some l → ∀ o n, l.phase = .executing o n →
      o.status = .executing
        ∧ ∀ c, w.calls[n]? = some c → c.operation.id = o.id)
    (hs : stepLoop (P.platform f) s w i = some (s₁, w₁)) :
    ∃ s₁' w₁', stepLoop (P.platform f') s' w' i = some (s₁', w₁')
      ∧ Alike a s₁ w₁ s₁' w₁' := by
  rw [stepLoop] at hs ⊢
  cases hl : w.loops[i]? with
  | none =>
    rw [hl] at hs
    cases hs
  | some l =>
    obtain ⟨l', hl', hhide⟩ := exists_loop_of_hide h.worker hl
    have haborted : l'.aborted = l.aborted :=
      (congrArg PollLoop.aborted hhide :)
    have hover : l'.isOver = l.isOver := by
      rw [← l'.isOver_hide a, hhide, l.isOver_hide]
    rw [hl] at hs
    rw [hl']
    dsimp only at hs ⊢
    rw [hover, haborted]
    split at hs
    · cases hs
    · next hno =>
      rw [if_neg hno]
      split at hs
      · next ha =>
        cases hs
        rw [if_pos ha]
        exact ⟨_, _, rfl, h.setLoop hhide rfl⟩
      · next ha =>
        rw [if_neg ha]
        exact h.exists_runLoop P f f' hhide (hexec l hl) hs

/-- A call goes on to phases that show the same. -/
lemma setCall (h : Alike a s w s' w') {n : Nat} {c c' : HandlerCall}
    (hc : c'.hide a = c.hide a) {ph ph' : CallPhase}
    (hph : ph' = ph ∨ c.operation.id = a ∧ ph'.hide = ph.hide) :
    Alike a s (w.setCall n c ph) s' (w'.setCall n c' ph') where
  site := h.site
  worker := by
    obtain ⟨hh, hop, ha, -⟩ := HandlerCall.hide_eq_iff.1 hc
    have hset : HandlerCall.hide a { c' with phase := ph' }
        = HandlerCall.hide a { c with phase := ph } :=
      HandlerCall.hide_eq_iff.2 ⟨hh, hop, ha, hph⟩
    simp only [Worker.setCall, hide, List.map_set, hset]
    exact (congrArg (fun v : Worker => { v with
      calls := v.calls.set n (HandlerCall.hide a { c with phase := ph }) })
      h.worker :)

section Calls

variable {n : Nat} {c c' : HandlerCall}

/-- A call begins; what it will come to differs only for the operation in
question. -/
lemma beginCall (h : Alike a s w s' w') (hc : c'.hide a = c.hide a)
    (hf : ∀ x hd t, t.id ≠ a → f' x hd t = f x hd t) :
    Alike a (s.execute (P.platform f) c.handler c.operation).2
      (w.setCall n c (.running (Clock.after s.now 0)
        (f s.world.2 c.handler c.operation)))
      (s'.execute (P.platform f') c.handler c.operation).2
      (w'.setCall n c' (.running (Clock.after s'.now 0)
        (f' s'.world.2 c.handler c.operation))) := by
  refine (h.of_site (h.site.execute P f f' _ _)).setCall hc ?_
  rw [h.site.now, h.site.around]
  by_cases hid : c.operation.id = a
  · exact .inr ⟨hid, rfl⟩
  · exact .inl (by rw [hf _ _ _ hid])

/-- Enters the end of a call, unless it panicked. -/
def noteFinish {σ : Type} (s : Site σ) (c : HandlerCall) (r : Outcome) :
    Site σ :=
  if r = .panicked then s else s.note (.finish c.handler c.operation)

/-- A call ends. -/
lemma finishCall (h : Alike a s w s' w') (hc : c'.hide a = c.hide a)
    {due due' : Nat} {r r' : Outcome} (hph : c.phase = .running due r)
    (hph' : c'.phase = .running due' r') :
    Alike a (noteFinish s c r) (w.setCall n c (.ended (some r)))
      (noteFinish s' c r') (w'.setCall n c' (.ended (some r'))) := by
  have hnote : ∀ (s : Site (MemoryPlatform × τ)) (r : Outcome),
      s.Alike a (noteFinish s c r) := by
    intro s r
    unfold noteFinish
    split
    · exact .refl s
    · exact .note s rfl
  refine (h.of_site (((hnote s r).symm.trans h.site).trans
    (hnote s' r'))).setCall hc ?_
  obtain ⟨-, -, -, hsame | ⟨hid, -⟩⟩ := HandlerCall.hide_eq_iff.1 hc
  · rw [hph, hph'] at hsame
    exact .inl (by rw [(CallPhase.running.inj hsame).2])
  · exact .inr ⟨hid, rfl⟩

end Calls

/-- A step of a call, of which the handlers answer the same or what is
hidden. -/
theorem exists_stepCall (h : Alike a s w s' w')
    (hf : ∀ x hd t, t.id ≠ a → f' x hd t = f x hd t) {n : Nat}
    (hs : stepCall (P.platform f) s w n = some (s₁, w₁)) :
    ∃ s₁' w₁', stepCall (P.platform f') s' w' n = some (s₁', w₁')
      ∧ Alike a s₁ w₁ s₁' w₁' := by
  rw [stepCall] at hs ⊢
  cases hc : w.calls[n]? with
  | none =>
    rw [hc] at hs
    cases hs
  | some c =>
    obtain ⟨c', hc', hhide⟩ := exists_call_of_hide h.worker hc
    obtain ⟨hhd, hop, haborted, -⟩ := HandlerCall.hide_eq_iff.1 hhide
    have hphase := HandlerCall.hide_phase_eq hhide
    rw [hc] at hs
    rw [hc']
    dsimp only at hs ⊢
    rw [HandlerCall.isOver_eq_of_hide hhide, haborted, hhd, hop]
    split at hs
    · cases hs
    · next hno =>
      rw [if_neg hno]
      split at hs
      · next ha =>
        cases hs
        rw [if_pos ha]
        exact ⟨_, _, rfl, h.setCall hhide (.inl rfl)⟩
      · next ha =>
        rw [if_neg ha]
        split at hs
        · next hph =>
          cases hs
          have hph' : c'.phase = .spawned :=
            CallPhase.eq_spawned (hph ▸ hphase)
          rw [hph']
          exact ⟨_, _, rfl, h.beginCall P f f' hhide hf⟩
        · next due outcome hph =>
          obtain ⟨outcome', hph'⟩ :=
            CallPhase.exists_running (hph ▸ hphase)
          rw [hph']
          dsimp only
          split at hs
          · next hdue =>
            cases hs
            rw [h.site.now, if_pos hdue]
            exact ⟨_, _, rfl, h.finishCall hhide hph hph'⟩
          · cases hs
        · cases hs

end Worker.Alike

/-! ### Runs -/

namespace WorkerSystem

/-- A worker that is held and that nobody calls. -/
structure Unattended {σ : Type} (p : Platform σ) (s : WorkerSystem σ) :
    Prop where
  held : ∃ site table interval, Held p site table interval s
  callers : s.callers = []

namespace Unattended

variable {σ : Type} {p : Platform σ} {s s' s₁ s₁' : WorkerSystem σ}
  {t t' : WorkerTask}

lemma step (h : Unattended p s) (hs : (machine p).Step s s') :
    Unattended p s' := by
  obtain ⟨site, table, interval, hheld⟩ := h.held
  refine ⟨⟨site, table, interval, hheld.step hs⟩, ?_⟩
  cases hs with
  | wait => exact h.callers
  | run t ht =>
    cases step_cases ht with
    | loop | call | destroy => exact h.callers
    | caller hc =>
      rw [h.callers] at hc
      cases hc

lemma engaged (h : Unattended p s) : s.worker.Engaged [] := by
  obtain ⟨site, table, interval, hheld⟩ := h.held
  obtain ⟨before, cur, ht⟩ := hheld.isTraced
  exact h.callers ▸ ht.engaged

/-- The loop that waits for a call has claimed the operation of that
call. -/
lemma executing (h : Unattended p s) {i : Nat} {l : PollLoop}
    (hl : s.worker.loops[i]? = some l) {o : Operation} {n : Nat}
    (hph : l.phase = .executing o n) : o.status = .executing
      ∧ ∀ c, s.worker.calls[n]? = some c → c.operation.id = o.id := by
  obtain ⟨site, table, interval, hheld⟩ := h.held
  obtain ⟨before, cur, ht⟩ := hheld.isTraced
  have hlast := (Worker.getLast?_of_live ht.engaged.one.earlier hl
    (by simp [hph])).1
  have hin := ht.traced.inCycle
  rw [Worker.phase_of_getLast? hlast, hph] at hin
  obtain ⟨o, c₀, hc₀, hd, rfl, -⟩ := hin
  refine ⟨rfl, fun c hc => ?_⟩
  obtain rfl : c.core = c₀ :=
    Option.some.inj ((Worker.cores_getElem? hc).symm.trans hc₀)
  exact hd.id_eq

/-- While a call is open, the loop waits for it. -/
lemma phase_of_open (h : Unattended p s) {n : Nat} {c : HandlerCall}
    (hc : s.worker.calls[n]? = some c) (ho : c.isOver = false) :
    ∃ o, s.worker.phase = .executing o n := by
  rcases h.engaged.open_call n c hc ho with hf | hcut
  · rcases h.engaged.in_flight n hf with hex | ⟨-, i, hi⟩
    · exact hex
    · cases hi
  · cases hcut

/-- A loop that waits for a call can take no step while the call is
open. -/
lemma not_loop_of_call (h : Unattended p s) {i n : Nat}
    {site site' : Site σ} {w w' : Worker}
    (hl : Worker.stepLoop p s.site s.worker i = some (site, w))
    (hc : Worker.stepCall p s.site s.worker n = some (site', w')) :
    False := by
  obtain ⟨c, _, _, hc, hm, -⟩ := Worker.stepCall_cases hc
  obtain ⟨o, hph⟩ := h.phase_of_open hc hm.isOver
  obtain ⟨l, hl, hne, hcases⟩ := Worker.stepLoop_cases hl
  obtain ⟨hlast, -⟩ := Worker.getLast?_of_live h.engaged.one.earlier hl hne
  have hexec : l.phase = .executing o n :=
    (Worker.phase_of_getLast? hlast).symm.trans hph
  rcases hcases with ⟨hcut, -⟩ | ⟨-, es, w₁, seen, ph, hmove, -⟩
  · obtain ⟨k, hk⟩ := h.engaged.aborted l hlast hne hcut
    cases hk
  · rw [hexec] at hmove
    cases hmove with
    | conclude hr =>
      rw [hc, Option.bind_some] at hr
      have ho := hm.isOver
      rw [HandlerCall.isOver, hr] at ho
      cases ho

/-- One task at a time can run. -/
theorem step_unique (h : Unattended p s)
    (hs : WorkerSystem.step p s t = some s₁)
    (hs' : WorkerSystem.step p s t' = some s₁') : t' = t := by
  have hcaller : ∀ {i : Nat} {u}, s.stepCaller i ≠ some u := by
    intro i u hu
    rw [stepCaller, h.callers] at hu
    cases hu
  have hdestroy : ∀ {u}, WorkerSystem.step p s .destroy ≠ some u := by
    intro u hu
    obtain ⟨site, table, interval, hheld⟩ := h.held
    have hrel := hheld.released
    simp [WorkerSystem.step, isAbandoned, hrel] at hu
  cases t with
  | caller i => exact absurd hs hcaller
  | destroy => exact absurd hs hdestroy
  | loop i =>
    obtain ⟨⟨site, w⟩, hr, -⟩ := Option.map_eq_some_iff.1 hs
    cases t' with
    | caller k => exact absurd hs' hcaller
    | destroy => exact absurd hs' hdestroy
    | call n =>
      obtain ⟨⟨site', w'⟩, hr', -⟩ := Option.map_eq_some_iff.1 hs'
      exact (h.not_loop_of_call hr hr').elim
    | loop k =>
      obtain ⟨⟨site', w'⟩, hr', -⟩ := Option.map_eq_some_iff.1 hs'
      obtain ⟨l, hl, hne, -⟩ := Worker.stepLoop_cases hr
      obtain ⟨l', hl', hne', -⟩ := Worker.stepLoop_cases hr'
      have hi := (Worker.getLast?_of_live h.engaged.one.earlier hl hne).2
      have hk := (Worker.getLast?_of_live h.engaged.one.earlier hl' hne').2
      rw [Nat.add_right_cancel (hk.trans hi.symm)]
  | call n =>
    obtain ⟨⟨site, w⟩, hr, -⟩ := Option.map_eq_some_iff.1 hs
    cases t' with
    | caller k => exact absurd hs' hcaller
    | destroy => exact absurd hs' hdestroy
    | loop i =>
      obtain ⟨⟨site', w'⟩, hr', -⟩ := Option.map_eq_some_iff.1 hs'
      exact (h.not_loop_of_call hr' hr).elim
    | call k =>
      obtain ⟨⟨site', w'⟩, hr', -⟩ := Option.map_eq_some_iff.1 hs'
      obtain ⟨c, _, _, hc, hm, -⟩ := Worker.stepCall_cases hr
      obtain ⟨c', _, _, hc', hm', -⟩ := Worker.stepCall_cases hr'
      rw [h.engaged.open_unique (fun _ ha => by cases ha) hc' hm'.isOver hc
        hm.isOver]

end Unattended

/-- Two workers that nobody calls, on platforms that follow one pattern,
and that differ in what is hidden. -/
structure Twins (a : String) (P : FaultPattern τ)
    (f f' : τ → Handler → TypedOperation → Outcome)
    (s s' : WorkerSystem (MemoryPlatform × τ)) : Prop where
  left : Unattended (P.platform f) s
  right : Unattended (P.platform f') s'
  alike : Worker.Alike a s.site s.worker s'.site s'.worker

namespace Twins

variable {a : String} {P : FaultPattern τ}
  {f f' : τ → Handler → TypedOperation → Outcome} {t : WorkerTask} {n : Nat}
  {s s' s₁ s₁' : WorkerSystem (MemoryPlatform × τ)}

lemma symm (h : Twins a P f f' s s') : Twins a P f' f s' s :=
  ⟨h.right, h.left, h.alike.symm⟩

lemma now_eq (h : Twins a P f f' s s') :
    (machine (P.platform f')).now s' = (machine (P.platform f)).now s :=
  h.alike.site.now

lemma wakes_eq (h : Twins a P f f' s s') :
    (machine (P.platform f')).wakes s'
      = (machine (P.platform f)).wakes s := by
  show s'.worker.wakes = s.worker.wakes
  rw [← Worker.wakes_hide a, h.alike.worker, Worker.wakes_hide]

/-- A task of one worker that can run can do so in the other. -/
lemma exists_step (h : Twins a P f f' s s')
    (hf : ∀ x hd t, t.id ≠ a → f' x hd t = f x hd t)
    (hs : WorkerSystem.step (P.platform f) s t = some s₁) :
    ∃ s₁', WorkerSystem.step (P.platform f') s' t = some s₁'
      ∧ Twins a P f f' s₁ s₁' := by
  have hleft := h.left.step (.run t hs)
  cases t with
  | loop i =>
    obtain ⟨⟨site, w⟩, hr, rfl⟩ := Option.map_eq_some_iff.1 hs
    obtain ⟨site', w', hr', halike⟩ := h.alike.exists_stepLoop P f f'
      (fun l hl o n => h.left.executing hl) hr
    have hs' : WorkerSystem.step (P.platform f') s' (.loop i)
        = some { s' with site := site', worker := w' } := by
      rw [WorkerSystem.step, hr']
      rfl
    exact ⟨_, hs', hleft, h.right.step (.run (.loop i) hs'), halike⟩
  | call i =>
    obtain ⟨⟨site, w⟩, hr, rfl⟩ := Option.map_eq_some_iff.1 hs
    obtain ⟨site', w', hr', halike⟩ := h.alike.exists_stepCall P f f' hf hr
    have hs' : WorkerSystem.step (P.platform f') s' (.call i)
        = some { s' with site := site', worker := w' } := by
      rw [WorkerSystem.step, hr']
      rfl
    exact ⟨_, hs', hleft, h.right.step (.run (.call i) hs'), halike⟩
  | caller i =>
    change s.stepCaller i = some s₁ at hs
    rw [stepCaller, h.left.callers] at hs
    cases hs
  | destroy =>
    obtain ⟨site, table, interval, hheld⟩ := h.left.held
    have hrel := hheld.released
    simp [WorkerSystem.step, isAbandoned, hrel] at hs

/-- A worker that can take no step is one of two that cannot. -/
lemma idle (h : Twins a P f f' s s')
    (hf : ∀ x hd t, t.id ≠ a → f' x hd t = f x hd t)
    (hidle : (machine (P.platform f)).Idle s) :
    (machine (P.platform f')).Idle s' := by
  intro t
  by_contra hne
  obtain ⟨s₁', hs'⟩ := Option.ne_none_iff_exists'.1 hne
  obtain ⟨s₁, hs, -⟩ := h.symm.exists_step
    (fun x hd t ht => (hf x hd t ht).symm) hs'
  cases (hidle t).symm.trans hs

/-- Workers that were alike are so after a step. -/
theorem step (h : Twins a P f f' s s')
    (hf : ∀ x hd t, t.id ≠ a → f' x hd t = f x hd t)
    (hs : (machine (P.platform f)).Step s s₁)
    (hs' : (machine (P.platform f')).Step s' s₁') :
    Twins a P f f' s₁ s₁' := by
  have hleft := h.left.step hs
  have hright := h.right.step hs'
  cases hs with
  | run t ht =>
    obtain ⟨s₂, ht₂, htwins⟩ := h.exists_step hf ht
    cases hs' with
    | run t' ht' =>
      obtain rfl := h.right.step_unique ht₂ ht'
      obtain rfl := Option.some.inj (ht₂.symm.trans ht')
      exact htwins
    | wait hidle => cases (hidle t).symm.trans ht₂
  | @wait d hidle hd hlt hmin =>
    have hidle' := h.idle hf hidle
    cases hs' with
    | run t' ht' => cases (hidle' t').symm.trans ht'
    | @wait d' _ hd' hlt' hmin' =>
      have hle := hmin d' (h.wakes_eq ▸ hd') (h.now_eq ▸ hlt')
      have hle' := hmin' d (h.wakes_eq ▸ hd) (h.now_eq ▸ hlt)
      obtain rfl := Nat.le_antisymm hle hle'
      exact ⟨hleft, hright, ⟨rfl, h.alike.site.memory, h.alike.site.around,
        h.alike.site.calls⟩, h.alike.worker⟩

/-- So are they after runs of one length. -/
theorem walk (h : Twins a P f f' s s')
    (hf : ∀ x hd t, t.id ≠ a → f' x hd t = f x hd t)
    (hs : (machine (P.platform f)).Walk n s s₁)
    (hs' : (machine (P.platform f')).Walk n s' s₁') :
    Twins a P f f' s₁ s₁' := by
  induction hs generalizing s' with
  | zero =>
    cases hs'
    exact h
  | succ hstep _ ih =>
    cases hs' with
    | succ hstep' hwalk' => exact ih (h.step hf hstep hstep') hwalk'

/-- Whatever one of them does, the other one can do something too. -/
lemma exists_machine_step (h : Twins a P f f' s s')
    (hf : ∀ x hd t, t.id ≠ a → f' x hd t = f x hd t)
    (hs : (machine (P.platform f)).Step s s₁) :
    ∃ s₁', (machine (P.platform f')).Step s' s₁' := by
  cases hs with
  | run t ht =>
    obtain ⟨s₁', ht', -⟩ := h.exists_step hf ht
    exact ⟨s₁', .run t ht'⟩
  | wait hidle hd hlt hmin =>
    rw [← h.now_eq] at hlt
    rw [← h.wakes_eq] at hd
    rw [← h.wakes_eq, ← h.now_eq] at hmin
    exact ⟨_, .wait (h.idle hf hidle) hd hlt hmin⟩

/-- One of them runs as far as the other one does. -/
theorem exists_walk (h : Twins a P f f' s s')
    (hf : ∀ x hd t, t.id ≠ a → f' x hd t = f x hd t)
    (hs : (machine (P.platform f)).Walk n s s₁) :
    ∃ s₁', (machine (P.platform f')).Walk n s' s₁' := by
  induction hs generalizing s' with
  | zero => exact ⟨s', .zero s'⟩
  | succ hstep _ ih =>
    obtain ⟨u, hu⟩ := h.exists_machine_step hf hstep
    obtain ⟨s₁', hwalk⟩ := ih (h.step hf hstep hu)
    exact ⟨s₁', .succ hu hwalk⟩

end Twins

/-- A worker that has just been started, with what its platform holds and
what surrounds it. -/
def launched (now : Nat) (m : MemoryPlatform) (x : τ) (table : HandlerTable)
    (interval : Span) : WorkerSystem (MemoryPlatform × τ) :=
  startIfStopped {
    site := { now, world := (m, x) }
    worker := .new table interval }

lemma unattended_launched (p : Platform (MemoryPlatform × τ)) (now : Nat)
    (m : MemoryPlatform) (x : τ) (table : HandlerTable) (interval : Span) :
    Unattended p (launched now m x table interval) :=
  ⟨⟨_, _, _, .move .new (.start (fun _ hc => by cases hc) rfl) rfl⟩, rfl⟩

/-- Over handlers that answer at once and differ only for one operation,
runs of one length make the same polls and call the same handlers, and
write the same but for what that operation has come to. -/
theorem isolated_of_walks {a : String} {P : FaultPattern τ}
    {f f' : τ → Handler → TypedOperation → Outcome}
    (hf : ∀ x hd t, t.id ≠ a → f' x hd t = f x hd t) {now : Nat}
    {m : MemoryPlatform} {x : τ} {table : HandlerTable} {interval : Span}
    {n : Nat} {s s' : WorkerSystem (MemoryPlatform × τ)}
    (hs : (machine (P.platform f)).Walk n
      (launched now m x table interval) s)
    (hs' : (machine (P.platform f')).Walk n
      (launched now m x table interval) s') :
    s'.site.journal.calls.map (Event.hide a)
        = s.site.journal.calls.map (Event.hide a)
      ∧ s'.site.world.1.writes.map (StatusWrite.hide a)
        = s.site.world.1.writes.map (StatusWrite.hide a) := by
  have h : Twins a P f f' (launched now m x table interval)
      (launched now m x table interval) :=
    ⟨unattended_launched _ now m x table interval,
      unattended_launched _ now m x table interval, .refl _, rfl⟩
  obtain ⟨-, -, ⟨-, hmem, -, hcalls⟩, -⟩ := h.walk hf hs hs'
  exact ⟨hcalls, congrArg MemoryPlatform.writes hmem⟩

/-- Calls are numbered from zero, and the seventh one fails. -/
def seventhFails : FaultPattern Nat where
  delay _ _ := 0
  fault x _ := if x = 6 then some ⟨"unreachable"⟩ else none
  next x _ := x + 1
  executed x := x

/-- Handlers that succeed, but for one operation. -/
def succeedingBut (a : String) (r : Outcome) (_ : Nat) (_ : Handler)
    (t : TypedOperation) : Outcome :=
  if t.id = a then r else .returned .successful

/-- Two operations are pending. -/
def twoRestarts : MemoryPlatform where
  operations := [pendingRestart "1", pendingRestart "2"]

/-- The worker that is to take them up. -/
def restartWorker : WorkerSystem (MemoryPlatform × Nat) :=
  launched 0 twoRestarts 0
    (.ofRegistrations [⟨restarter, restarter.kinds⟩]) (.ofMillis 100)

/-- The tasks by which it takes up both and polls once more. -/
def servingBoth : List WorkerTask :=
  let serve (i : Nat) : List WorkerTask :=
    [.loop 0, .loop 0, .call i, .call i, .loop 0, .loop 0]
  .loop 0 :: serve 0 ++ serve 1 ++ [.loop 0]

/-- The worker after that, if the first operation comes to an outcome. -/
def servedBoth (r : Outcome) : WorkerSystem (MemoryPlatform × Nat) :=
  (servingBoth.foldlM
    (machine (seventhFails.platform (succeedingBut "1" r))).step
    restartWorker).getD restartWorker

/-- A panic for the first operation shows in what is written for it, and
nowhere else. -/
theorem isolated_servedBoth :
    let s := servedBoth .panicked
    let s' := servedBoth (.returned .successful)
    (s'.site.journal.calls.map (Event.hide "1")
        = s.site.journal.calls.map (Event.hide "1")
      ∧ s'.site.world.1.writes.map (StatusWrite.hide "1")
        = s.site.world.1.writes.map (StatusWrite.hide "1"))
      ∧ s.site.world.1.writes.map (fun w => (w.id, w.status))
        = [("1", .executing), ("1", .failed), ("2", .executing),
          ("2", .successful)]
      ∧ s'.site.world.1.writes.map (fun w => (w.id, w.status))
        = [("1", .executing), ("1", .successful), ("2", .executing),
          ("2", .successful)]
      ∧ s.site.journal.calls.length = 9 := by
  have hwalk : ∀ r, (servingBoth.foldlM
        (machine (seventhFails.platform (succeedingBut "1" r))).step
        restartWorker).isSome = true →
      (machine (seventhFails.platform (succeedingBut "1" r))).Walk 14
        restartWorker (servedBoth r) := by
    intro r hr
    obtain ⟨s, hs⟩ := Option.isSome_iff_exists.1 hr
    have hserved : servedBoth r = s := by
      rw [servedBoth, hs, Option.getD_some]
    exact hserved ▸ Machine.walk_of_foldlM hs
  intro s s'
  refine ⟨isolated_of_walks (fun x hd t ht => ?_)
    (hwalk .panicked (by decide +kernel))
    (hwalk (.returned .successful) (by decide +kernel)),
    by decide +kernel, by decide +kernel, by decide +kernel⟩
  rw [succeedingBut, succeedingBut, if_neg ht, if_neg ht]

end WorkerSystem

end RemoteOps
