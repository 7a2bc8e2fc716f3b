/-
Whose handlers a worker calls, and how it is brought to a halt.

* `Worker.Manned`: only handlers of the table are called;
* `Worker.Quiet`: nobody is called any more;
* `Worker.CutOff`: what a caller who aborts waits for is to be cut off;
* `Worker.CutOff.exists_step`: so that somebody can take a step, and the
  clock stands still.
-/
import RemoteOps.Proofs.Worker.Trace

namespace RemoteOps.Worker

variable {σ : Type} {p : Platform σ} {s s' : Site σ} {w w' : Worker}
  {i : Nat} {h h' : Halt} {callers : List Halt}

/-! ### The handlers of the table -/

/-- Only handlers of the table are called. -/
structure Manned (w : Worker) : Prop where
  claiming : ∀ o t h due, w.phase = .claiming o t h due →
    h ∈ w.table.handlers
  calls : ∀ c ∈ w.cores, c.handler ∈ w.table.handlers

section Moves

variable {es : List Event} {w₁ : Worker} {ph ph' : LoopPhase}

/-- An operation is claimed for a handler of the table. -/
lemma mem_handlers_of_claiming (hm : LoopMove w ph es w₁ ph')
    {o : Operation} {t : TypedOperation} {hd : Handler} {due : Nat}
    (hph : ph' = .claiming o t hd due) : hd ∈ w.table.handlers := by
  have hfree : ¬ ph'.IsFree := by
    rw [hph]
    exact id
  cases hm with
  | begin hr | wake hr | rejected hr | reported hr =>
    exact absurd hr.isFree hfree
  | conclude _ hc =>
    rcases hc.1 with ⟨_, _, heq⟩ | ⟨_, heq⟩ <;> rw [heq] at hph <;> cases hph
  | accept hd =>
    cases hph
    obtain ⟨r, hr, rfl, -⟩ := HandlerTable.handlerFor?_eq_some hd.owner
    exact List.mem_map_of_mem hr
  | pollFailed | nothing | refuse | reject | claimed | unclaimed => cases hph

/-- A call is made for an operation that was claimed. -/
lemma cores_of_loopMove (hm : LoopMove w ph es w₁ ph') :
    w₁.cores = w.cores ∨ ∃ o t hd due, ph = .claiming o t hd due
      ∧ w₁.cores = w.cores ++ [{ handler := hd, operation := t }] := by
  rcases loopMove_cases hm with ⟨rfl, -⟩ | ⟨o, t, hd, due, hph, rfl, -⟩
    | ⟨_, _, _, -, -, rfl, -⟩
  · exact .inl rfl
  · exact .inr ⟨o, t, hd, due, hph, cores_spawnCall w hd t⟩
  · exact .inl rfl

end Moves

namespace Manned

lemma congr (h : w.Manned) (hw : w.SameTasks w') : w'.Manned where
  claiming o t hd due hph := by
    rw [hw.table]
    exact h.claiming o t hd due (phase_congr hw.phases ▸ hph)
  calls c hc := by
    rw [hw.table]
    exact h.calls c (hw.cores ▸ hc)

lemma stepLoop (h : w.Manned) (he : EarlierExited w.phases)
    (hs : stepLoop p s w i = some (s', w')) : w'.Manned := by
  obtain ⟨l, hl, hne, hcases⟩ := stepLoop_cases hs
  obtain ⟨hlast, hlen⟩ := getLast?_of_live he hl hne
  have hph := phase_of_getLast? hlast
  rcases hcases with ⟨-, -, rfl⟩ | ⟨-, es, w₁, seen, ph, hm, -, -, rfl⟩
  · refine ⟨fun o t hd due hphase => ?_, h.calls⟩
    rw [phase_of_getLast? (getLast?_setLoop hlen l .exited)] at hphase
    cases hphase
  · obtain ⟨hloops, -, -, -, htable⟩ := loops_of_loopMove hm
    have hph' : (w₁.setLoop i { l with seen } ph).phase = ph :=
      phase_of_getLast? (getLast?_setLoop (hloops ▸ hlen) _ ph)
    refine ⟨fun o t hd due hphase => ?_, fun c hc => ?_⟩
    · show hd ∈ w₁.table.handlers
      rw [htable]
      exact mem_handlers_of_claiming hm (hph'.symm.trans hphase)
    · show c.handler ∈ w₁.table.handlers
      rw [htable]
      have hc' : c ∈ w₁.cores := hc
      rcases cores_of_loopMove hm with heq | ⟨o, t, hd, due, hcl, heq⟩
      · exact h.calls c (heq ▸ hc')
      · rw [heq] at hc'
        rcases List.mem_append.1 hc' with hc' | hc'
        · exact h.calls c hc'
        · rw [List.mem_singleton.1 hc']
          exact h.claiming o t hd due (hph.trans hcl)

lemma stepCall (h : w.Manned) (hs : stepCall p s w i = some (s', w')) :
    w'.Manned := by
  have hphase := phase_congr (stepCall_phases hs).1
  obtain ⟨c, es, ph, hc, -, -, rfl⟩ := stepCall_cases hs
  refine ⟨fun o t hd due hph => h.claiming o t hd due (hphase ▸ hph), ?_⟩
  have hkept : ({ c.core with phase := ph } : HandlerCall).handler
      ∈ w.table.handlers :=
    h.calls c.core (List.mem_of_getElem? (cores_getElem? hc))
  rw [cores_setCall]
  exact forall_mem_set h.calls hkept i

end Manned

/-! ### Nobody is called any more -/

/-- A worker that has no handlers, or is gone with all its calls. -/
def Quiet (w : Worker) : Prop :=
  w.table = .empty
    ∨ w.phase = .exited ∧ ∀ c ∈ w.cores, c.isOver = true

namespace Quiet

/-- No call is open. -/
lemma isOver (h : w.Quiet) (hm : w.Manned) :
    ∀ c ∈ w.cores, c.isOver = true := by
  rcases h with htab | ⟨-, hover⟩
  · intro c hc
    have hmem := hm.calls c hc
    rw [htab] at hmem
    cases hmem
  · exact hover

lemma congr (h : w.Quiet) (hw : w.SameTasks w') : w'.Quiet := by
  rw [Quiet, hw.table, hw.cores, phase_congr hw.phases]
  exact h

/-- When the loop has exited and nobody aborts. -/
lemma of_exited (h : w.Engaged []) (hex : w.phase = .exited) : w.Quiet := by
  refine .inr ⟨hex, fun c hc => ?_⟩
  obtain ⟨c₀, hc₀, rfl⟩ := List.mem_map.1 hc
  exact h.isOver_of_exited hex (fun _ hi => by cases hi)
    (fun _ hn => by cases hn) c₀ hc₀

lemma stepLoop (h : w.Quiet) (he : EarlierExited w.phases)
    (hs : stepLoop p s w i = some (s', w')) : w'.Quiet := by
  rcases h with htab | ⟨hex, -⟩
  · exact .inl ((table_stepLoop hs).trans htab)
  · obtain ⟨l, hl, hne, -⟩ := stepLoop_cases hs
    rw [phase_of_getLast? (getLast?_of_live he hl hne).1] at hex
    exact absurd hex hne

lemma stepCall_eq_none (h : w.Quiet) (hm : w.Manned) :
    stepCall p s w i = none := by
  refine stepCall_of_over p ?_
  rw [callIsOver]
  cases hc : w.calls[i]? with
  | none => rfl
  | some c =>
    exact h.isOver hm c.core (List.mem_of_getElem? (cores_getElem? hc))

end Quiet

/-! ### Cutting off -/

/-- What a caller who aborts waits for is to be cut off. -/
def CutOff (w : Worker) : Halt → Prop
  | .abortingLoop i => ∀ l, w.loops[i]? = some l → l.aborted = true
  | .abortingCall n => ∀ c, w.calls[n]? = some c → c.aborted = true
  | .awaitingExit _ | .returned => False

namespace CutOff

/-- A caller begins to abort. -/
lemma beginAbort {k : Nat} (hk : w.current? = some k) :
    w.beginAbort.1.CutOff w.beginAbort.2 := by
  rw [beginAbort_of_some hk]
  intro l hl
  rw [abortLoop, List.getElem?_modify] at hl
  obtain ⟨l₀, -, rfl⟩ := Option.map_eq_some_iff.1 hl
  simp

/-- A caller who aborts goes on from the loop to the call in flight. -/
lemma resume (hc : w.CutOff h) (hr : w.resume h = some (w', h'))
    (hh : h' ≠ .returned) : w'.CutOff h' := by
  cases resume_cases hr with
  | stopped | nothing | gone => exact absurd rfl hh
  | cut =>
    intro c hc
    rw [abortCall, List.getElem?_modify] at hc
    obtain ⟨c₀, -, rfl⟩ := Option.map_eq_some_iff.1 hc
    simp

lemma stepLoop (hc : w.CutOff h) (he : w.Engaged callers)
    (hmem : h ∈ callers) (hs : stepLoop p s w i = some (s', w')) :
    w'.CutOff h := by
  obtain ⟨l, hl, hne, hcases⟩ := stepLoop_cases hs
  cases h with
  | awaitingExit k | returned => exact hc.elim
  | abortingCall n =>
    -- the loop is gone before its call is cut off
    have hall := he.one.awaited _ hmem
    exact absurd (hall _ (List.mem_map_of_mem (List.mem_of_getElem? hl))) hne
  | abortingLoop k =>
    have hset : ∀ (w₁ : Worker) (l' : PollLoop) (ph : LoopPhase),
        w₁.loops = w.loops → l'.aborted = l.aborted →
        (w₁.setLoop i l' ph).CutOff (.abortingLoop k) := by
      intro w₁ l' ph hloops ha l₁ hl₁
      rw [setLoop, hloops] at hl₁
      by_cases hik : i = k
      · subst hik
        rw [List.getElem?_set_self (List.getElem?_eq_some_iff.1 hl).1,
          Option.some.injEq] at hl₁
        rw [← hl₁]
        exact ha.trans (hc l hl)
      · rw [List.getElem?_set_ne hik] at hl₁
        exact hc l₁ hl₁
    rcases hcases with ⟨-, -, rfl⟩ | ⟨-, es, w₁, seen, ph, hm, -, -, rfl⟩
    · exact hset w l .exited rfl rfl
    · exact hset w₁ { l with seen } ph (loops_of_loopMove hm).1 rfl

lemma stepCall (hc : w.CutOff h)
    (hs : stepCall p s w i = some (s', w')) : w'.CutOff h := by
  obtain ⟨c, es, ph, hget, -, -, rfl⟩ := stepCall_cases hs
  cases h with
  | awaitingExit k | returned => exact hc.elim
  | abortingLoop k => exact hc
  | abortingCall n =>
    intro c' hc'
    by_cases hin : i = n
    · subst hin
      rw [setCall, List.getElem?_set_self
        (List.getElem?_eq_some_iff.1 hget).1, Option.some.injEq] at hc'
      rw [← hc']
      exact hc c hget
    · rw [setCall, List.getElem?_set_ne hin] at hc'
      exact hc c' hc'

/-! Marks stay when another caller begins or goes on. -/

lemma congr (hc : w.CutOff h) (hloops : w'.loops = w.loops)
    (hcalls : w'.calls = w.calls) : w'.CutOff h := by
  cases h with
  | awaitingExit k | returned => exact hc.elim
  | abortingLoop k => exact fun l hl => hc l (hloops ▸ hl)
  | abortingCall n => exact fun c hget => hc c (hcalls ▸ hget)

lemma abortLoop (hc : w.CutOff h) (k : Nat) : (w.abortLoop k).CutOff h := by
  cases h with
  | awaitingExit j | returned => exact hc.elim
  | abortingCall n => exact hc
  | abortingLoop j =>
    intro l hl
    rw [Worker.abortLoop, List.getElem?_modify] at hl
    obtain ⟨l₀, hl₀, rfl⟩ := Option.map_eq_some_iff.1 hl
    by_cases hk : k = j
    · simp [hk]
    · simpa [hk] using hc l₀ hl₀

lemma abortCall (hc : w.CutOff h) (m : Nat) : (w.abortCall m).CutOff h := by
  cases h with
  | awaitingExit j | returned => exact hc.elim
  | abortingLoop j => exact hc
  | abortingCall n =>
    intro c hget
    rw [Worker.abortCall, List.getElem?_modify] at hget
    obtain ⟨c₀, hc₀, rfl⟩ := Option.map_eq_some_iff.1 hget
    by_cases hm : m = n
    · simp [hm]
    · simpa [hm] using hc c₀ hc₀

lemma beginStop_other (hc : w.CutOff h) : w.beginStop.1.CutOff h :=
  hc.congr w.alive_beginStop.1 w.alive_beginStop.2

lemma beginAbort_other {k : Nat} (hc : w.CutOff h)
    (hk : w.current? = some k) : w.beginAbort.1.CutOff h := by
  rw [beginAbort_of_some hk]
  exact abortLoop (hc.congr rfl rfl) k

lemma resume_other {g g' : Halt} (hc : w.CutOff h)
    (hr : w.resume g = some (w', g')) : w'.CutOff h := by
  cases resume_cases hr with
  | stopped | nothing | gone => exact hc.congr rfl rfl
  | @cut k m => exact abortCall (hc.congr rfl rfl) m

/-- Either the caller goes on, or what it waits for is cut off. -/
lemma exists_step (p : Platform σ) (s : Site σ) (hc : w.CutOff h) :
    w.resume h ≠ none ∨ (∃ i, Worker.stepLoop p s w i ≠ none)
      ∨ ∃ i, Worker.stepCall p s w i ≠ none := by
  cases h with
  | awaitingExit k | returned => exact hc.elim
  | abortingLoop k =>
    cases hover : w.loopIsOver k with
    | true => exact .inl (by simp [Worker.resume, hover])
    | false =>
      refine .inr (.inl ⟨k, ?_⟩)
      rw [loopIsOver] at hover
      rw [Worker.stepLoop]
      cases hl : w.loops[k]? with
      | none => simp [hl] at hover
      | some l =>
        have ho : l.isOver = false := by simpa [hl] using hover
        simp [ho, hc l hl]
  | abortingCall n =>
    cases hover : w.callIsOver n with
    | true => exact .inl (by simp [Worker.resume, hover])
    | false =>
      refine .inr (.inr ⟨n, ?_⟩)
      rw [callIsOver] at hover
      rw [Worker.stepCall]
      cases hget : w.calls[n]? with
      | none => simp [hget] at hover
      | some c =>
        have ho : c.isOver = false := by simpa [hget] using hover
        simp [ho, hc c hget]

end CutOff

end RemoteOps.Worker
