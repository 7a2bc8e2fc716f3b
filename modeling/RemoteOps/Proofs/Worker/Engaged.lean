/-
Which calls of handlers are open, and who sees to it that they end.

An open call is in flight or is being cut off by a caller; what is in
flight is waited for by the loop, or the loop is gone and a caller who
aborts will take it up.

* `Worker.Engaged`: the invariant of a worker and its callers;
* `Worker.Engaged.stepLoop`, `Worker.Engaged.stepCall`,
  `Worker.Engaged.resume`, `Worker.Engaged.beginStop`,
  `Worker.Engaged.beginAbort`, `Worker.Engaged.start`: every change keeps
  it;
* `Worker.Engaged.isOver_of_exited`: when the loop has exited and nobody
  aborts, no call is open.
-/
import RemoteOps.Proofs.Worker.SingleLoop
import RemoteOps.Proofs.Worker.Steps

namespace RemoteOps

namespace Worker

/-! ### The last loop -/

/-- What the last loop is doing; a worker without loops has none that
could do anything. -/
def phase (w : Worker) : LoopPhase :=
  (w.loops.getLast?.map (·.phase)).getD .exited

variable {σ : Type} {p : Platform σ} {s s' : Site σ} {w w' w₁ : Worker}
  {i : Nat} {l : PollLoop} {es : List Event} {ph ph' : LoopPhase}

lemma phase_of_getLast? (h : w.loops.getLast? = some l) :
    w.phase = l.phase := by
  rw [phase, h]
  rfl

/-- A loop that is alive is the last one. -/
lemma getLast?_of_live (he : EarlierExited w.phases)
    (hl : w.loops[i]? = some l) (hne : l.phase ≠ .exited) :
    w.loops.getLast? = some l ∧ i + 1 = w.loops.length := by
  obtain ⟨hi, -⟩ := List.getElem?_eq_some_iff.1 hl
  have hlast : i + 1 = w.loops.length := by
    by_contra hlt
    have hex := he i (by rw [phases, List.length_map]; omega)
    rw [phases_getElem? hl, Option.some.injEq] at hex
    exact hne hex
  refine ⟨?_, hlast⟩
  rw [List.getLast?_eq_getElem?, show w.loops.length - 1 = i by omega, hl]

/-- Replacing the last loop. -/
lemma getLast?_setLoop (hi : i + 1 = w.loops.length) (l : PollLoop)
    (ph : LoopPhase) :
    (w.setLoop i l ph).loops.getLast? = some { l with phase := ph } := by
  rw [setLoop, List.getLast?_eq_getElem?, List.length_set,
    show w.loops.length - 1 = i by omega, List.getElem?_set_self (by omega)]

/-- When the last loop has exited, all have. -/
lemma forall_exited (he : EarlierExited w.phases) (h : w.phase = .exited) :
    ∀ ph ∈ w.phases, ph = .exited := by
  intro ph hph
  obtain ⟨l, hl, rfl⟩ := List.mem_map.1 hph
  by_contra hne
  obtain ⟨i, hi⟩ := List.mem_iff_getElem?.1 hl
  have hlast := (getLast?_of_live he hi hne).1
  exact hne (phase_of_getLast? hlast ▸ h)

lemma phase_of_forall_exited (h : ∀ ph ∈ w.phases, ph = .exited) :
    w.phase = .exited := by
  rw [phase]
  cases hl : w.loops.getLast? with
  | none => rfl
  | some l => exact h _ (List.mem_map_of_mem (List.mem_of_getLast? hl))

/-- A stop marks the worker and waits for the last loop, if there is
one. -/
lemma beginStop_eq (w : Worker) :
    w.beginStop.1 = { w with running := false, signals := w.signals + 1 }
      ∧ (w.beginStop.2 = .returned ∧ w.phases = []
        ∨ ∃ i, w.beginStop.2 = .awaitingExit i) := by
  set w' : Worker := { w with
    running := false
    signals := w.signals + 1 } with hw'
  rcases w.current?_cases with ⟨hnil, hnone⟩ | ⟨i, hsome, -⟩
  · have heq : w.beginStop = (w', .returned) := by
      simp only [beginStop, ← hw', show w'.current? = none from hnone]
    rw [heq]
    exact ⟨rfl, .inl ⟨rfl, hnil⟩⟩
  · have heq : w.beginStop = (w', .awaitingExit i) := by
      simp only [beginStop, ← hw', show w'.current? = some i from hsome]
    rw [heq]
    exact ⟨rfl, .inr ⟨i, rfl⟩⟩

lemma beginAbort_of_some (h : w.current? = some i) : w.beginAbort
    = (({ w with running := false } : Worker).abortLoop i,
      .abortingLoop i) := by
  have hcur : current? { w with running := false } = some i := h
  simp only [beginAbort, hcur]

/-- Whoever tells a worker to abort and returns at once finds no loop. -/
lemma phases_of_beginAbort (h : w.beginAbort.2 = .returned) :
    w.phases = [] := by
  rcases w.current?_cases with ⟨hnil, -⟩ | ⟨i, hsome, -⟩
  · exact hnil
  · rw [beginAbort_of_some hsome] at h
    cases h

lemma beginAbort_of_none (h : w.current? = none) : w.beginAbort
    = ({ w with running := false } : Worker).abortInFlight := by
  have hcur : current? { w with running := false } = none := h
  simp only [beginAbort, hcur]

/-- A stop that cannot go on waits for a loop that is there. -/
lemma exists_current?_of_resume (h : w.resume (.awaitingExit i) = none) :
    ∃ k, w.current? = some k := by
  rcases w.current?_cases with ⟨hnil, -⟩ | ⟨k, hk, -⟩
  · have hover : w.loopIsOver i = true := by
      rw [loopIsOver, List.map_eq_nil_iff.1 hnil]
      rfl
    rw [resume, if_pos hover] at h
    cases h
  · exact ⟨k, hk⟩

/-- Who returns leaves the worker stopped. -/
lemma state_of_resume {h : Halt} (hr : w.resume h = some (w', .returned)) :
    w'.state = .stopped := by
  cases resume_cases hr with
  | stopped | nothing | gone => rfl

/-- A call that is over stays so when it is to be cut off. -/
lemma calls_abortCall (w : Worker) (n m : Nat) {c : HandlerCall}
    (hc : (w.abortCall n).calls[m]? = some c) :
    ∃ c₀, w.calls[m]? = some c₀ ∧ c₀.isOver = c.isOver := by
  rw [abortCall, List.getElem?_modify] at hc
  obtain ⟨c₀, hc₀, rfl⟩ := Option.map_eq_some_iff.1 hc
  refine ⟨c₀, hc₀, ?_⟩
  by_cases h : n = m <;> simp [h, HandlerCall.isOver, HandlerCall.result?]

/-! ### The invariant -/

/-- Every open call of a worker is seen to by its last loop or by one of
its callers. -/
structure Engaged (w : Worker) (callers : List Halt) : Prop where
  one : OneLoop w.phases w.state callers
  aborted : ∀ l, w.loops.getLast? = some l → l.phase ≠ .exited →
    l.aborted = true → ∃ i, .abortingLoop i ∈ callers
  open_call : ∀ n c, w.calls[n]? = some c → c.isOver = false →
    w.inFlight = some n ∨ .abortingCall n ∈ callers
  in_flight : ∀ n, w.inFlight = some n →
    (∃ o, w.phase = .executing o n)
      ∨ w.phase = .exited ∧ ∃ i, .abortingLoop i ∈ callers
  executing : ∀ o n, w.phase = .executing o n → w.inFlight = some n
    ∧ ∃ c, w.calls[n]? = some c ∧ c.aborted = false
  seen : ∀ l, w.loops.getLast? = some l → l.seen ≤ w.signals

/-- What a move of a loop has to do with calls: it makes one, it has seen
the end of one, or it is not concerned with any. -/
lemma loopMove_cases (h : LoopMove w ph es w₁ ph') :
    (w = w₁ ∧ (∀ o n, ph ≠ .executing o n) ∧ ∀ o n, ph' ≠ .executing o n)
      ∨ (∃ o t hd due, ph = .claiming o t hd due ∧ w₁ = w.spawnCall hd t
        ∧ ph' = .executing o w.calls.length)
      ∨ ∃ o n r, ph = .executing o n
        ∧ w.calls[n]?.bind HandlerCall.result? = some r
        ∧ w₁ = { w with inFlight := none }
        ∧ ∀ o n, ph' ≠ .executing o n := by
  have hfree : ph'.IsFree → ∀ o n, ph' ≠ .executing o n := by
    rintro h o n rfl
    exact h
  cases h with
  | begin h | wake h =>
    exact .inl ⟨rfl, fun _ _ => LoopPhase.noConfusion, hfree h.isFree⟩
  | pollFailed | nothing | refuse _ | reject _ | accept _ | unclaimed =>
    exact .inl ⟨rfl, fun _ _ => LoopPhase.noConfusion,
      fun _ _ => LoopPhase.noConfusion⟩
  | rejected h | reported h =>
    exact .inl ⟨rfl, fun _ _ => LoopPhase.noConfusion, hfree h.isFree⟩
  | claimed => exact .inr (.inl ⟨_, _, _, _, rfl, rfl, rfl⟩)
  | conclude hr h =>
    refine .inr (.inr ⟨_, _, _, rfl, hr, rfl, fun o n => ?_⟩)
    rcases h.1 with ⟨_, _, rfl⟩ | ⟨_, rfl⟩ <;> exact LoopPhase.noConfusion

lemma loops_of_loopMove (h : LoopMove w ph es w₁ ph') :
    w₁.loops = w.loops ∧ w₁.state = w.state ∧ w₁.signals = w.signals
      ∧ w₁.running = w.running ∧ w₁.table = w.table := by
  cases h <;> exact ⟨rfl, rfl, rfl, rfl, rfl⟩

/-- A loop exits only if the worker is not to go on. -/
lemma ne_exited_of_loopMove (h : LoopMove w ph es w₁ ph')
    (hrun : w.running = true) : ph' ≠ .exited := by
  have hrenews : w.Renews ph' → ph' ≠ .exited := by
    rintro (⟨-, due, rfl⟩ | ⟨hno, -⟩)
    · exact LoopPhase.noConfusion
    · rw [hrun] at hno
      cases hno
  cases h with
  | begin hr | wake hr => exact hrenews hr
  | @rejected _ _ _ r he | @reported _ _ _ r he =>
    cases r with
    | ok u => exact hrenews he
    | error e =>
      obtain ⟨due, rfl⟩ := he
      exact LoopPhase.noConfusion
  | conclude _ hc =>
    rcases hc.1 with ⟨_, _, rfl⟩ | ⟨_, rfl⟩ <;>
      exact LoopPhase.noConfusion
  | pollFailed | nothing | refuse | reject | accept | claimed
  | unclaimed => exact LoopPhase.noConfusion

namespace Engaged

variable {callers : List Halt}

lemma new (table : HandlerTable) (interval : Span) :
    (Worker.new table interval).Engaged [] where
  one := .of_all (fun _ h => by cases h) (fun _ h => by cases h)
  aborted _ h := by cases h
  open_call n c h := by simp [Worker.new] at h
  in_flight _ h := by cases h
  executing _ _ h := by cases h
  seen _ h := by cases h

/-- Nothing is in flight unless the loop waits for it, or has exited. -/
lemma inFlight_eq_none (h : w.Engaged callers) (hne : w.phase ≠ .exited)
    (hapart : ∀ o n, w.phase ≠ .executing o n) : w.inFlight = none := by
  cases hf : w.inFlight with
  | none => rfl
  | some n =>
    rcases h.in_flight n hf with ⟨o, ho⟩ | ⟨hex, -⟩
    · exact absurd ho (hapart o n)
    · exact absurd hex hne

/-- What is in flight when the loop has exited is taken up by a caller. -/
lemma exists_abortingLoop (h : w.Engaged callers) (hex : w.phase = .exited)
    {n : Nat} (hf : w.inFlight = some n) : ∃ i, .abortingLoop i ∈ callers := by
  rcases h.in_flight n hf with ⟨o, ho⟩ | ⟨-, hi⟩
  · rw [hex] at ho
    cases ho
  · exact hi

/-- When the loop has exited and nobody aborts, nothing is in flight. -/
lemma inFlight_of_exited (h : w.Engaged callers) (hex : w.phase = .exited)
    (hno : ∀ i, .abortingLoop i ∉ callers) : w.inFlight = none := by
  cases hf : w.inFlight with
  | none => rfl
  | some n =>
    obtain ⟨i, hi⟩ := h.exists_abortingLoop hex hf
    exact absurd hi (hno i)

/-- A worker whose loop has exited: only its calls and who aborts
matter. -/
lemma of_exited (hone : OneLoop w.phases w.state callers)
    (hex : w.phase = .exited)
    (hseen : ∀ l, w.loops.getLast? = some l → l.seen ≤ w.signals)
    (hopen : ∀ n c, w.calls[n]? = some c → c.isOver = false →
      w.inFlight = some n ∨ .abortingCall n ∈ callers)
    (hflight : ∀ n, w.inFlight = some n → ∃ i, .abortingLoop i ∈ callers) :
    w.Engaged callers where
  one := hone
  aborted l hl hne := absurd (phase_of_getLast? hl ▸ hex) hne
  open_call := hopen
  in_flight n hn := .inr ⟨hex, hflight n hn⟩
  executing o n hn := by
    rw [hex] at hn
    cases hn
  seen := hseen

/-- Only callers who abort matter; all others may leave. -/
lemma callers_mono {callers' : List Halt} (h : w.Engaged callers)
    (hsub : ∀ c ∈ callers', c ∈ callers ∨ c = .returned)
    (hloop : ∀ i, .abortingLoop i ∈ callers → .abortingLoop i ∈ callers')
    (hcall : ∀ n, .abortingCall n ∈ callers → .abortingCall n ∈ callers') :
    w.Engaged callers' where
  one := { h.one with
    awaited := fun c hc => by
      rcases hsub c hc with hc | rfl
      · exact h.one.awaited c hc
      · trivial }
  aborted l hl hne ha := by
    obtain ⟨i, hi⟩ := h.aborted l hl hne ha
    exact ⟨i, hloop i hi⟩
  open_call n c hc ho := (h.open_call n c hc ho).imp_right (hcall n)
  in_flight n hf := (h.in_flight n hf).imp_right fun ⟨hex, i, hi⟩ =>
    ⟨hex, i, hloop i hi⟩
  executing := h.executing
  seen := h.seen

/-- A caller who has returned does not matter. -/
lemma of_returned {A B : List Halt} (h : w.Engaged (A ++ .returned :: B)) :
    w.Engaged (A ++ B) :=
  h.callers_mono (fun c hc => .inl (List.perm_middle.mem_iff.2 (.tail _ hc)))
    (fun i hi => by simpa using hi) fun n hn => by simpa using hn

/-- When the loop has exited and nobody aborts, no call is open. -/
lemma isOver_of_exited (h : w.Engaged callers) (hex : w.phase = .exited)
    (hloop : ∀ i, .abortingLoop i ∉ callers)
    (hcall : ∀ n, .abortingCall n ∉ callers) :
    ∀ c ∈ w.calls, c.isOver = true := by
  intro c hc
  obtain ⟨n, hn⟩ := List.mem_iff_getElem?.1 hc
  by_contra ho
  rcases h.open_call n c hn (by simpa using ho) with hf | ha
  · cases (h.inFlight_of_exited hex hloop).symm.trans hf
  · exact hcall n ha

/-- If at most one caller waits, at most one call is open. -/
lemma open_unique (h : w.Engaged callers)
    (hone : ∀ a ∈ callers, ∀ b ∈ callers, a ≠ .returned → b ≠ .returned →
      a = b) {n m : Nat} {c c' : HandlerCall}
    (hn : w.calls[n]? = some c) (ho : c.isOver = false)
    (hm : w.calls[m]? = some c') (ho' : c'.isOver = false) : n = m := by
  -- nothing is in flight any more when a call is being cut off
  have hflight : ∀ k k', w.inFlight = some k → .abortingCall k' ∉ callers := by
    intro k k' hk hcut
    have hex := phase_of_forall_exited (h.one.awaited _ hcut)
    obtain ⟨i, hi⟩ := h.exists_abortingLoop hex hk
    cases hone _ hi _ hcut Halt.noConfusion Halt.noConfusion
  rcases h.open_call n c hn ho with hf | hcut
    <;> rcases h.open_call m c' hm ho' with hf' | hcut'
  · exact Option.some.inj (hf.symm.trans hf')
  · exact absurd hcut' (hflight n m hf)
  · exact absurd hcut (hflight m n hf')
  · exact Halt.abortingCall.inj
      (hone _ hcut _ hcut' Halt.noConfusion Halt.noConfusion)

/-! ### Steps -/

/-- The last loop goes on to a phase that fits what is in flight. -/
lemma setLoop {seen : Nat} (h : w.Engaged callers)
    (hlast : w.loops.getLast? = some l) (hi : i + 1 = w.loops.length)
    (hloops : w₁.loops = w.loops) (hsig : w₁.signals = w.signals)
    (hseen : seen ≤ w.signals)
    (hone : OneLoop (w₁.setLoop i { l with seen } ph).phases w₁.state callers)
    (hne : l.phase ≠ .exited)
    (hopen : ∀ n c, w₁.calls[n]? = some c → c.isOver = false →
      w₁.inFlight = some n ∨ .abortingCall n ∈ callers)
    (hflight : ∀ n, w₁.inFlight = some n → ∃ o, ph = .executing o n)
    (hexec : ∀ o n, ph = .executing o n → w₁.inFlight = some n
      ∧ ∃ c, w₁.calls[n]? = some c ∧ c.aborted = false) :
    (w₁.setLoop i { l with seen } ph).Engaged callers := by
  have hlast' := getLast?_setLoop (hloops ▸ hi) { l with seen } ph
  have hph : (w₁.setLoop i { l with seen } ph).phase = ph :=
    phase_of_getLast? hlast'
  exact {
    one := hone
    aborted := fun l' hl' _ ha => by
      rw [hlast', Option.some.injEq] at hl'
      rw [← hl'] at ha
      exact h.aborted l hlast hne ha
    open_call := hopen
    in_flight := fun n hn => .inl (by
      rw [hph]
      exact hflight n hn)
    executing := fun o n hn => hexec o n (hph ▸ hn)
    seen := fun l' hl' => by
      rw [hlast', Option.some.injEq] at hl'
      rw [← hl']
      exact hseen.trans (Nat.le_of_eq hsig.symm) }

/-- Who makes a call waits for it. -/
lemma open_spawnCall (h : w.Engaged callers) (hnone : w.inFlight = none)
    {hd : Handler} {t : TypedOperation} {n : Nat} {c : HandlerCall}
    (hc : (w.spawnCall hd t).calls[n]? = some c) (ho : c.isOver = false) :
    (w.spawnCall hd t).inFlight = some n ∨ .abortingCall n ∈ callers := by
  rcases Nat.lt_or_ge n w.calls.length with hlt | hge
  · have hc' : w.calls[n]? = some c := by
      rw [← hc]
      exact (List.getElem?_append_left hlt).symm
    rcases h.open_call n c hc' ho with hf | ha
    · rw [hnone] at hf
      cases hf
    · exact .inr ha
  · obtain ⟨hn, -⟩ := List.getElem?_eq_some_iff.1 hc
    have hlen : n < w.calls.length + 1 := by simpa [spawnCall] using hn
    obtain rfl : n = w.calls.length := by omega
    exact .inl rfl

/-- A move of the last loop. -/
lemma loopMove {seen : Nat} (h : w.Engaged callers)
    (hlast : w.loops.getLast? = some l) (hi : i + 1 = w.loops.length)
    (hne : l.phase ≠ .exited) (hm : LoopMove w l.phase es w₁ ph)
    (hseen : seen ≤ w.signals)
    (hone : OneLoop (w₁.setLoop i { l with seen } ph).phases w₁.state
      callers) : (w₁.setLoop i { l with seen } ph).Engaged callers := by
  obtain ⟨hloops, -, hsig, -, -⟩ := loops_of_loopMove hm
  have hph := phase_of_getLast? hlast
  have hout : w.phase ≠ .exited := hph ▸ hne
  rcases loopMove_cases hm with ⟨rfl, hapart, hapart'⟩
    | ⟨o, t, hd, due, hcl, rfl, rfl⟩ | ⟨o, n, r, hexec, hr, rfl, hapart'⟩
  · have hnone := h.inFlight_eq_none hout (hph ▸ hapart)
    refine h.setLoop hlast hi hloops hsig hseen hone hne h.open_call
      (fun n hn => ?_) fun o n hn => absurd hn (hapart' o n)
    rw [hnone] at hn
    cases hn
  · -- a call is made
    have hnone := h.inFlight_eq_none hout fun o n => by
      rw [hph, hcl]
      exact LoopPhase.noConfusion
    refine h.setLoop hlast hi hloops hsig hseen hone hne
      (fun n c hc ho => h.open_spawnCall hnone hc ho) (fun n hn => ?_)
      fun o' n hn => ?_
    · obtain rfl : w.calls.length = n := Option.some.inj hn
      exact ⟨o, rfl⟩
    · rw [LoopPhase.executing.injEq] at hn
      obtain ⟨-, rfl⟩ := hn
      exact ⟨rfl, _, List.getElem?_concat_length, rfl⟩
  · -- the end of a call was seen
    obtain ⟨hf, -⟩ := h.executing o n (hph.trans hexec)
    refine h.setLoop hlast hi hloops hsig hseen hone hne
      (fun m c hc ho => ?_) (fun n hn => by cases hn)
      fun o n hn => absurd hn (hapart' o n)
    rcases h.open_call m c hc ho with hm' | ha
    · obtain rfl : n = m := Option.some.inj (hf.symm.trans hm')
      have hc' : w.calls[n]? = some c := hc
      rw [hc', Option.bind_some] at hr
      rw [HandlerCall.isOver, hr] at ho
      cases ho
    · exact .inr ha

lemma stepLoop (h : w.Engaged callers)
    (hs : stepLoop p s w i = some (s', w')) : w'.Engaged callers := by
  obtain ⟨⟨ph₀, ph₁, hi, hne₀, hphases⟩, hstate⟩ := stepLoop_phases hs
  have hone : OneLoop w'.phases w'.state callers := by
    rw [hphases, hstate]
    exact h.one.setPhase ph₁ hi hne₀
  obtain ⟨l, hl, hne, hcases⟩ := stepLoop_cases hs
  obtain ⟨hlast, hlen⟩ := getLast?_of_live h.one.earlier hl hne
  rcases hcases with ⟨ha, -, rfl⟩ | ⟨-, es, w₁, seen, ph, hm, -, hseen, rfl⟩
  · -- the loop is cut off
    have hlast' := getLast?_setLoop hlen l .exited
    refine of_exited hone (phase_of_getLast? hlast') (fun l' hl' => ?_)
      h.open_call fun n hn => h.aborted l hlast hne ha
    rw [hlast', Option.some.injEq] at hl'
    rw [← hl']
    exact h.seen l hlast
  · refine h.loopMove hlast hlen hne hm ?_ hone
    rcases hseen with rfl | ⟨rfl, -⟩
    · exact h.seen l hlast
    · exact Nat.le_refl _

lemma stepCall (h : w.Engaged callers)
    (hs : stepCall p s w i = some (s', w')) : w'.Engaged callers := by
  obtain ⟨hphases, hstate⟩ := stepCall_phases hs
  obtain ⟨c, es, ph, hc, hm, -, rfl⟩ := stepCall_cases hs
  have hget : ∀ (n : Nat) (c' : HandlerCall),
      (w.setCall i c ph).calls[n]? = some c' → ∃ c₀ : HandlerCall,
        w.calls[n]? = some c₀ ∧ c₀.aborted = c'.aborted
        ∧ (c'.isOver = false → c₀.isOver = false) := by
    intro n c' hc'
    by_cases hin : i = n
    · subst hin
      obtain ⟨hlt, -⟩ := List.getElem?_eq_some_iff.1 hc
      rw [setCall, List.getElem?_set_self hlt, Option.some.injEq] at hc'
      exact ⟨c, hc, hc' ▸ rfl, fun _ => hm.isOver⟩
    · rw [setCall, List.getElem?_set_ne hin] at hc'
      exact ⟨c', hc', rfl, id⟩
  exact {
    one := by
      rw [hphases, hstate]
      exact h.one
    aborted := h.aborted
    open_call := fun n c' hc' ho => by
      obtain ⟨c₀, hc₀, -, ho₀⟩ := hget n c' hc'
      exact h.open_call n c₀ hc₀ (ho₀ ho)
    in_flight := h.in_flight
    executing := fun o n hn => by
      obtain ⟨hf, c₀, hc₀, ha⟩ := h.executing o n hn
      obtain ⟨hlt, -⟩ := List.getElem?_eq_some_iff.1 hc₀
      have hlt' : n < (w.setCall i c ph).calls.length := by
        rwa [setCall, List.length_set]
      have hc' := List.getElem?_eq_getElem hlt'
      obtain ⟨c₁, hc₁, ha₁, -⟩ := hget n _ hc'
      obtain rfl : c₀ = c₁ := Option.some.inj (hc₀.symm.trans hc₁)
      exact ⟨hf, _, hc', ha₁ ▸ ha⟩
    seen := h.seen }

/-! ### Callers -/

/-- One more caller takes nothing away. -/
lemma addCaller (h : w.Engaged callers) {c : Halt}
    (hone : OneLoop w.phases w.state (callers ++ [c])) :
    w.Engaged (callers ++ [c]) where
  one := hone
  aborted l hl hne ha := by
    obtain ⟨i, hi⟩ := h.aborted l hl hne ha
    exact ⟨i, List.mem_append_left _ hi⟩
  open_call n c hc ho :=
    (h.open_call n c hc ho).imp_right (List.mem_append_left _)
  in_flight n hf := (h.in_flight n hf).imp_right fun ⟨hex, i, hi⟩ =>
    ⟨hex, i, List.mem_append_left _ hi⟩
  executing := h.executing
  seen := h.seen

lemma beginStop (h : w.Engaged callers) :
    w.beginStop.1.Engaged (callers ++ [w.beginStop.2]) := by
  have hone := WorkerSystem.hasOneLoop_stop
    (s := ⟨{ world := () }, w, callers, false, false⟩) h.one
  set w' : Worker := { w with
    running := false
    signals := w.signals + 1 } with hw'
  have heq : w.beginStop.1 = w' := w.beginStop_eq.1
  have h' : w'.Engaged callers := { h with
    seen := fun l hl => Nat.le_succ_of_le (h.seen l hl) }
  change OneLoop w.beginStop.1.phases w.beginStop.1.state
    (callers ++ [w.beginStop.2]) at hone
  rw [heq] at hone ⊢
  exact h'.addCaller hone

lemma getLast?_abortLoop (w : Worker) (hi : i + 1 = w.loops.length) :
    (w.abortLoop i).loops.getLast?
      = w.loops.getLast?.map fun l => { l with aborted := true } := by
  have hlen : (w.loops.modify i fun l => { l with aborted := true }).length
      = w.loops.length := List.length_modify ..
  rw [abortLoop, List.getLast?_eq_getElem?, hlen, List.getElem?_modify,
    List.getLast?_eq_getElem?, show w.loops.length - 1 = i by omega]
  simp

lemma beginAbort (h : w.Engaged callers) :
    w.beginAbort.1.Engaged (callers ++ [w.beginAbort.2]) := by
  have hone := WorkerSystem.hasOneLoop_abort
    (s := ⟨{ world := () }, w, callers, false, false⟩) h.one
  change OneLoop w.beginAbort.1.phases w.beginAbort.1.state
    (callers ++ [w.beginAbort.2]) at hone
  set w' : Worker := { w with running := false } with hw'
  have h' : w'.Engaged callers := { h with seen := h.seen }
  rcases w.current?_cases with ⟨hnil, hnone⟩ | ⟨i, hsome, hlast⟩
  · -- without a loop nothing is in flight
    have hno : ∀ k, .abortingLoop k ∉ callers := fun k hk => by
      have hlast : k + 1 = w.phases.length := h.one.awaited _ hk
      rw [hnil] at hlast
      cases hlast
    have hf : w.inFlight = none :=
      h.inFlight_of_exited (phase_of_forall_exited (by simp [hnil])) hno
    have heq : w.beginAbort = ({ w' with state := .stopped }, .returned) := by
      have habort : w'.abortInFlight
          = ({ w' with state := .stopped }, .returned) := by
        rw [abortInFlight, show w'.inFlight = none from hf]
      rw [beginAbort_of_none hnone, habort]
    rw [heq] at hone ⊢
    exact addCaller (w := { w' with state := .stopped }) { h' with
      one := .of_all (fun ph hph => by
          have hph' : ph ∈ w.phases := hph
          rw [hnil] at hph'
          cases hph')
        h.one.awaited } hone
  · rw [beginAbort_of_some hsome] at hone ⊢
    have hlen : i + 1 = w'.loops.length := by
      rw [hlast, phases, List.length_map]
    have hget := getLast?_abortLoop w' hlen
    have hphase : (w'.abortLoop i).phase = w.phase := by
      rw [phase, hget, Option.map_map]
      rfl
    exact {
      one := hone
      aborted := fun _ _ _ _ => ⟨i, by simp⟩
      open_call := fun n c hc ho =>
        (h.open_call n c hc ho).imp_right (List.mem_append_left _)
      in_flight := fun n hf => by
        rw [hphase]
        rcases h.in_flight n hf with ho | ⟨hex, k, hk⟩
        · exact .inl ho
        · exact .inr ⟨hex, k, List.mem_append_left _ hk⟩
      executing := fun o n hn => h.executing o n (hphase ▸ hn)
      seen := fun l hl => by
        rw [hget] at hl
        obtain ⟨l₀, hl₀, rfl⟩ := Option.map_eq_some_iff.1 hl
        exact h.seen l₀ hl₀ }

/-- A caller goes on with its halt. -/
lemma resume (h : w.Engaged callers) {c c' : Halt}
    (hc : callers[i]? = some c) (hr : w.resume c = some (w', c')) :
    w'.Engaged (callers.set i c') := by
  obtain ⟨hall, hc'⟩ := h.one.resume (List.mem_of_getElem? hc) hr
  have hex := phase_of_forall_exited hall
  have hi : i < callers.length := (List.getElem?_eq_some_iff.1 hc).1
  have hsame := SameTasks.resume hr
  have hone : OneLoop w'.phases w'.state (callers.set i c') := by
    rw [hsame.phases]
    exact .of_all hall (h.one.setCaller hc')
  have hex' : w'.phase = .exited :=
    phase_of_forall_exited (hsame.phases ▸ hall)
  -- other callers wait on
  have hother : ∀ d ∈ callers, d ≠ c → d ∈ callers.set i c' := by
    intro d hd hne
    obtain ⟨k, hk⟩ := List.mem_iff_getElem?.1 hd
    have hik : i ≠ k := by
      rintro rfl
      exact hne (Option.some.inj (hk.symm.trans hc))
    exact List.mem_iff_getElem?.2 ⟨k, by rw [List.getElem?_set_ne hik, hk]⟩
  have hnew : c' ∈ callers.set i c' := List.mem_set hi c'
  have hflight : (∀ k, c ≠ .abortingLoop k) → ∀ n, w.inFlight = some n →
      ∃ k, .abortingLoop k ∈ callers.set i c' := fun hne n hn => by
    obtain ⟨k, hk⟩ := h.exists_abortingLoop hex hn
    exact ⟨k, hother _ hk (hne k).symm⟩
  cases resume_cases hr with
  | stopped =>
    refine of_exited hone hex' h.seen (fun n c hc ho => ?_)
      (hflight fun _ => Halt.noConfusion)
    exact (h.open_call n c hc ho).imp_right fun hmem =>
      hother _ hmem Halt.noConfusion
  | nothing _ hf =>
    refine of_exited hone hex' h.seen (fun n c hc ho => ?_) fun n hn => ?_
    · exact (h.open_call n c hc ho).imp_right fun hmem =>
        hother _ hmem Halt.noConfusion
    · cases hf.symm.trans hn
  | @cut k m _ hf =>
    refine of_exited hone hex' h.seen (fun n c hc ho => ?_)
      fun n hn => by cases hn
    obtain ⟨c₀, hc₀, hover⟩ := calls_abortCall _ m n hc
    rcases h.open_call n c₀ hc₀ (hover.trans ho) with hn | hmem
    · obtain rfl : m = n := Option.some.inj (hf.symm.trans hn)
      exact .inr hnew
    · exact .inr (hother _ hmem Halt.noConfusion)
  | @gone k hover =>
    refine of_exited hone hex' h.seen (fun n d hd ho => ?_)
      (hflight fun _ => Halt.noConfusion)
    refine (h.open_call n d hd ho).imp_right fun hmem => hother _ hmem ?_
    rw [Ne, Halt.abortingCall.injEq]
    rintro rfl
    have hd' : w.calls[n]? = some d := hd
    rw [callIsOver, hd', Option.all_some, ho] at hover
    cases hover

/-- One of the callers goes on. -/
lemma resume_at {A B : List Halt} {c c' : Halt}
    (h : w.Engaged (A ++ c :: B)) (hr : w.resume c = some (w', c')) :
    w'.Engaged (A ++ c' :: B) := by
  have h' := h.resume (i := A.length) (by simp) hr
  rwa [List.set_append_right _ _ (Nat.le_refl _), Nat.sub_self,
    List.set_cons_zero] at h'

/-- One of the callers aborts instead of waiting on. -/
lemma abort_at {A B : List Halt} (h : w.Engaged (A ++ .awaitingExit i :: B)) :
    w.beginAbort.1.Engaged (A ++ w.beginAbort.2 :: B) :=
  h.beginAbort.callers_mono
    (fun c hc => .inl (by
      simp only [List.mem_append, List.mem_cons] at hc ⊢
      tauto))
    (fun k hk => by simpa [or_assoc, or_comm, or_left_comm] using hk)
    fun n hn => by simpa [or_assoc, or_comm, or_left_comm] using hn

/-- A start that finds that nobody waits. -/
lemma start (h : w.Engaged callers) (hm : ∀ c ∈ callers, c = .returned)
    (hs : w.start? = some w') : w'.Engaged callers := by
  let s : WorkerSystem Unit := ⟨{ world := () }, w, callers, false, false⟩
  have hwaits : s.NobodyWaits := hm
  have hstart : s.start? = some { s with worker := w' } := by
    rw [WorkerSystem.start?, hs]
    rfl
  have hone := WorkerSystem.hasOneLoop_start hwaits hstart h.one
  obtain ⟨hstate, rfl⟩ := start?_eq_some hs
  have hex : w.phase = .exited := by
    refine phase_of_forall_exited fun ph hph => ?_
    by_contra hne
    exact hstate (h.one.started ⟨ph, hph, hne⟩)
  have hno : ∀ i, .abortingLoop i ∉ callers := fun i hi =>
    Halt.noConfusion (hm _ hi)
  have hover := h.isOver_of_exited hex hno
    fun n hn => Halt.noConfusion (hm _ hn)
  have hf := h.inFlight_of_exited hex hno
  set w' : Worker := { w with
    running := true
    signals := w.signals + 1
    loops := w.loops ++ [{ seen := w.signals + 1 }]
    state := .started } with hw'
  have hlast : w'.loops.getLast? = some { seen := w.signals + 1 } := by
    simp [hw']
  have hph : w'.phase = .spawned := phase_of_getLast? hlast
  exact {
    one := hone
    aborted := fun l hl _ ha => by
      rw [hlast, Option.some.injEq] at hl
      rw [← hl] at ha
      cases ha
    open_call := fun n c hc ho => by
      rw [hover c (List.mem_of_getElem? hc)] at ho
      cases ho
    in_flight := fun n hn => by
      have hn' : w.inFlight = some n := hn
      rw [hf] at hn'
      cases hn'
    executing := fun o n hn => by
      rw [hph] at hn
      cases hn
    seen := fun l hl => by
      rw [hlast, Option.some.injEq] at hl
      rw [← hl] }

end Engaged

end Worker

end RemoteOps
