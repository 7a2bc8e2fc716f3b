/-
What a platform in memory shows of the operation that a loop has in hand.

An operation that was handed out is pending until its claim has landed,
and is being executed from then on until what came of it has landed.
Between two writes the worker does not touch the memory, and operations
that others issue meanwhile change nothing.

* `Platform.Answers`: what a call makes of the state of a platform;
* `Worker.answers_stepLoop`, `Worker.world_stepCall`: a step changes the
  platform only by the call that it makes;
* `MemoryPlatform.InHand`: the operation in hand, by the phase of the
  loop;
* `MemoryPlatform.InHand.stepLoop`, `MemoryPlatform.memory_stepCall`: the
  worker keeps to it.
-/
import RemoteOps.Proofs.Platform.Hosted
import RemoteOps.Proofs.Platform.Memory
import RemoteOps.Proofs.Worker.Trace

namespace RemoteOps

variable {σ : Type} {p : Platform σ} {s s' : Site σ} {w w' : Worker}
  {i : Nat} {es : List Event}

/-! ### Answers -/

/-- What at most one call of a loop makes of the state of a platform. -/
inductive Platform.Answers (p : Platform σ) (x : σ) :
    List Event → σ → Prop where
  | none : Answers p x [] x
  | poll : Answers p x [.poll (p.poll x).1] (p.poll x).2
  | status (id : String) (status : Status) (reason : Option String) :
    Answers p x [.status id status reason (p.writeStatus x id status reason).1]
      (p.writeStatus x id status reason).2

namespace Platform.Answers

variable {x y : σ}

lemma of_nil (h : p.Answers x [] y) : y = x := by
  cases h
  rfl

lemma of_poll {r : Except Failure (Option Operation)}
    (h : p.Answers x [.poll r] y) : p.poll x = (r, y) := by
  cases h
  rfl

lemma of_status {id : String} {status : Status} {reason : Option String}
    {r : Except Failure Unit}
    (h : p.Answers x [.status id status reason r] y) :
    p.writeStatus x id status reason = (r, y) := by
  cases h
  rfl

end Platform.Answers

/-- Something was counted, and no call was made. -/
structure Site.OnlyCounted (s s' : Site σ) : Prop where
  world : s'.world = s.world
  calls : s'.journal.calls = s.journal.calls

namespace Worker

lemma onlyCounted_note (s : Site σ) (c : Counter) :
    s.OnlyCounted (s.note (.counted c)) :=
  ⟨rfl, Journal.calls_cons_of_not_isCall rfl _⟩

lemma onlyCounted_failCycle (s : Site σ) (w : Worker) :
    s.OnlyCounted (failCycle s w).1 := onlyCounted_note s _

lemma onlyCounted_endCycle (s : Site σ) (w : Worker)
    (r : Except Failure Unit) : s.OnlyCounted (endCycle p s w r).1 := by
  cases r with
  | ok u => exact ⟨rfl, rfl⟩
  | error e => exact onlyCounted_failCycle s w

lemma onlyCounted_reject (s : Site σ) (w : Worker) (o : Operation)
    (reason : String) : s.OnlyCounted (reject p s w o reason).1 := by
  have hcount := onlyCounted_note s (.operations .unsupported)
  rw [reject]
  split
  · exact hcount
  · have hfail := onlyCounted_failCycle
      (s.note (.counted (.operations .unsupported))) w
    exact ⟨hfail.world.trans hcount.world, hfail.calls.trans hcount.calls⟩

lemma onlyCounted_dispatch (s : Site σ) (w : Worker) (o : Operation) :
    s.OnlyCounted (dispatch p s w o).1 := by
  rw [dispatch]
  split
  · exact onlyCounted_reject s w o _
  · split
    · exact onlyCounted_reject s w o _
    · split
      · exact ⟨rfl, rfl⟩
      · exact onlyCounted_failCycle s w

lemma onlyCounted_conclude (s : Site σ) (w : Worker) (o : Operation)
    (r : Option Outcome) : s.OnlyCounted (conclude p s w o r).1 := by
  have hcount := onlyCounted_note s (.operations (report r).verdict)
  rw [conclude]
  split
  · exact hcount
  · have hfail := onlyCounted_failCycle
      (s.note (.counted (.operations (report r).verdict))) w
    exact ⟨hfail.world.trans hcount.world, hfail.calls.trans hcount.calls⟩

/-- A call was answered, and then something was counted at most. -/
lemma answers_of_onlyCounted {s₁ : Site σ} (h : s₁.OnlyCounted s')
    (ha : p.Answers s.world es s₁.world)
    (hc : s₁.journal.calls = s.journal.calls ++ es) :
    ∃ es, p.Answers s.world es s'.world
      ∧ s'.journal.calls = s.journal.calls ++ es :=
  ⟨es, h.world ▸ ha, h.calls.trans hc⟩

lemma calls_answered (s : Site σ) (x : σ) {e : Event}
    (h : e.isCall = true) :
    (s.answered x e).journal.calls = s.journal.calls ++ [e] := by
  rw [(Site.Enters.answered s x e).calls]
  simp [h]

/-- A write of the loop that goes on was answered. -/
lemma answers_writeStatus {o : Operation}
    (h : ((s.writeStatus p o).2).OnlyCounted s') :
    ∃ es, p.Answers s.world es s'.world
      ∧ s'.journal.calls = s.journal.calls ++ es :=
  answers_of_onlyCounted h (.status o.id o.status o.failureReason)
    (calls_answered s _ rfl)

lemma answers_runLoop {l : PollLoop}
    (h : runLoop p s w i l = some (s', w')) :
    ∃ es, p.Answers s.world es s'.world
      ∧ s'.journal.calls = s.journal.calls ++ es := by
  have hno : ∀ s₁ : Site σ, s.OnlyCounted s₁ →
      ∃ es, p.Answers s.world es s₁.world
        ∧ s₁.journal.calls = s.journal.calls ++ es := fun s₁ h₁ =>
    answers_of_onlyCounted h₁ .none (List.append_nil _).symm
  cases hph : l.phase with
  | spawned =>
    simp only [runLoop, hph] at h
    cases h
    exact hno s ⟨rfl, rfl⟩
  | polling due =>
    simp only [runLoop, hph] at h
    split at h
    · cases h
      refine answers_of_onlyCounted (?_ : (s.poll p).2.OnlyCounted _) .poll
        (calls_answered s _ rfl)
      split
      · exact onlyCounted_dispatch _ w _
      · exact ⟨rfl, rfl⟩
      · exact onlyCounted_failCycle _ w
    · cases h
  | rejecting o due | reporting o due =>
    simp only [runLoop, hph] at h
    split at h
    · cases h
      exact answers_writeStatus (onlyCounted_endCycle _ w _)
    · cases h
  | claiming o t hd due =>
    simp only [runLoop, hph] at h
    split at h
    · split at h
      · cases h
        exact answers_writeStatus (o := o) ⟨rfl, rfl⟩
      · cases h
        exact answers_writeStatus (o := o) (onlyCounted_failCycle _ w)
    · cases h
  | executing o n =>
    simp only [runLoop, hph] at h
    split at h
    · cases h
      exact hno _ (onlyCounted_conclude s _ o _)
    · cases h
  | idle due =>
    simp only [runLoop, hph] at h
    split at h
    · cases h
      exact hno s ⟨rfl, rfl⟩
    · cases h
  | exited =>
    simp only [runLoop, hph] at h
    cases h

/-- A step of a loop changes the platform only by the call that it
makes. -/
theorem answers_stepLoop (h : stepLoop p s w i = some (s', w'))
    (hc : s'.journal.calls = s.journal.calls ++ es) :
    p.Answers s.world es s'.world := by
  rw [stepLoop] at h
  split at h
  · split at h
    · cases h
    · split at h
      · cases h
        obtain rfl : es = [] := by simpa using hc
        exact .none
      · obtain ⟨es', ha, hc'⟩ := answers_runLoop h
        rwa [List.append_cancel_left (hc.symm.trans hc')]
  · cases h

/-- A step of a call changes the platform only if the handler begins. -/
theorem world_stepCall (h : stepCall p s w i = some (s', w')) :
    s'.world = s.world ∨ ∃ hd t, s'.world = (p.execute s.world hd t).2 := by
  rw [stepCall] at h
  split at h
  · split at h
    · cases h
    · split at h
      · cases h
        exact .inl rfl
      · split at h
        · cases h
          exact .inr ⟨_, _, rfl⟩
        · split at h
          · cases h
            refine .inl ?_
            split <;> rfl
          · cases h
        · cases h
  · cases h

end Worker

/-! ### The memory -/

namespace MemoryPlatform

variable {m m' : MemoryPlatform} {phase : LoopPhase}

/-- At most further operations were issued. -/
structure Extends (m m' : MemoryPlatform) : Prop where
  operations : m.operations <+: m'.operations
  writes : m'.writes = m.writes

namespace Extends

lemma refl (m : MemoryPlatform) : m.Extends m := ⟨List.prefix_refl _, rfl⟩

lemma trans {m'' : MemoryPlatform} (h : m.Extends m')
    (h' : m'.Extends m'') : m.Extends m'' :=
  ⟨h.operations.trans h'.operations, h'.writes.trans h.writes⟩

/-- An operation is found where it was. -/
lemma operation? (h : m.Extends m') {id : String} {o : Operation}
    (ho : m.operation? id = some o) : m'.operation? id = some o := by
  obtain ⟨l, hl⟩ := h.operations
  rw [MemoryPlatform.operation?] at ho ⊢
  rw [← hl, List.find?_append, ho]
  rfl

lemma statusesFor (h : m.Extends m') (id : String) :
    m'.statusesFor id = m.statusesFor id := by
  rw [MemoryPlatform.statusesFor, h.writes, MemoryPlatform.statusesFor]

end Extends

/-- A status that was written is the status of the operation, and the last
one on record for it. -/
lemma operation?_writeStatus {id : String} {status : Status}
    {reason : Option String}
    (h : m.writeStatus id status reason = (.ok (), m')) :
    (∃ o, m'.operation? id = some o ∧ o.status = status)
      ∧ (m'.statusesFor id).getLast? = some status := by
  obtain ⟨o, ho⟩ := exists_of_write_ok h
  rw [write_ok h]
  refine ⟨⟨{ o with status, failureReason := reason }, ?_, rfl⟩, ?_⟩
  · rw [operation?] at ho ⊢
    dsimp only
    rw [find?_modifyFirst (f := fun o =>
      { o with status, failureReason := reason }) fun _ h => h, ho]
    rfl
  · simp [statusesFor]

/-- What the platform shows of the operation that a loop in a phase has in
hand: it is pending while its first write is under way, and is being
executed, as was written for it last, until the next one has landed. -/
def InHand (m : MemoryPlatform) : LoopPhase → Prop
  | .rejecting o _ | .claiming o _ _ _ =>
    ∃ o₀ ∈ m.operations, o₀.id = o.id ∧ o₀.status = .pending
  | .executing o _ | .reporting o _ =>
    (∃ o₀, m.operation? o.id = some o₀ ∧ o₀.status = .executing)
      ∧ (m.statusesFor o.id).getLast? = some .executing
  | .spawned | .polling _ | .idle _ | .exited => True

namespace InHand

lemma of_isFree (h : phase.IsFree) : m.InHand phase := by
  cases phase <;> trivial

/-- Operations that others issue change nothing. -/
lemma of_extends (h : m.InHand phase) (he : m.Extends m') :
    m'.InHand phase := by
  cases phase with
  | rejecting o due | claiming o t hd due =>
    obtain ⟨o₀, ho₀, hid⟩ := h
    exact ⟨o₀, he.operations.subset ho₀, hid⟩
  | executing o n | reporting o due =>
    obtain ⟨⟨o₀, ho₀, hst⟩, hlast⟩ := h
    exact ⟨⟨o₀, he.operation? ho₀, hst⟩, he.statusesFor o.id ▸ hlast⟩
  | spawned | polling | idle | exited => trivial

variable {τ : Type} {H : Host τ} {s s' : Site (MemoryPlatform × τ)}

/-- A move of a loop, made on what the memory answers. -/
lemma loopMove {w₁ : Worker} {ph ph' : LoopPhase}
    {calls : List HandlerCall} {cur : List Event}
    (h : s.world.1.InHand ph) (hin : InCycle w.table calls cur ph)
    (hm : LoopMove w ph es w₁ ph')
    (ha : H.platform.Answers s.world es s'.world) :
    s'.world.1.InHand ph' := by
  have hpoll : ∀ o, es = [.poll (.ok (some o))] →
      o ∈ s'.world.1.operations ∧ o.status = .pending := by
    rintro o rfl
    have hr := ha.of_poll
    obtain ⟨hmem, hst⟩ := mem_of_poll (congrArg Prod.fst hr)
    have hkeep := s.world.1.poll_keeps.1
    rw [show s.world.1.poll.2 = s'.world.1 from
      congrArg (·.2.1) hr] at hkeep
    exact ⟨hkeep ▸ hmem, hst⟩
  cases hm with
  | begin hr | wake hr => exact of_isFree hr.isFree
  | rejected hr | reported hr => exact of_isFree hr.isFree
  | pollFailed | nothing | refuse | unclaimed => trivial
  | reject | accept =>
    obtain ⟨hmem, hst⟩ := hpoll _ rfl
    exact ⟨_, hmem, rfl, hst⟩
  | @claimed _ o t hd =>
    obtain ⟨o₀, -, -, ho⟩ := hin
    have hst : o.status = .executing := by rw [ho]
    have hr := ha.of_status
    have hok := congrArg Prod.fst hr
    have hmem := congrArg (·.2.1) hr
    have hwrite : s.world.1.writeStatus o.id o.status o.failureReason
        = (.ok (), s'.world.1) := Prod.ext hok hmem
    have hshown := operation?_writeStatus hwrite
    rwa [hst] at hshown
  | @conclude o n r _ hr hc =>
    obtain ⟨o₀, c, -, -, ho, -⟩ := hin
    obtain ⟨due, rfl⟩ := hc.2 (by rw [ho])
    rw [ha.of_nil]
    exact h

/-- The steps of the loop keep to what the platform shows. -/
theorem stepLoop {calls : List HandlerCall} {cur : List Event}
    (h : s.world.1.InHand w.phase)
    (hin : InCycle w.table calls cur w.phase)
    (he : EarlierExited w.phases)
    (hs : Worker.stepLoop H.platform s w i = some (s', w')) :
    s'.world.1.InHand w'.phase := by
  obtain ⟨l, hl, hne, hcases⟩ := Worker.stepLoop_cases hs
  obtain ⟨hlast, hlen⟩ := Worker.getLast?_of_live he hl hne
  rw [Worker.phase_of_getLast? hlast] at h hin
  rcases hcases with ⟨-, -, rfl⟩ | ⟨-, es, w₁, seen, ph, hm, hg, -, rfl⟩
  · rw [Worker.phase_of_getLast? (Worker.getLast?_setLoop hlen l .exited)]
    trivial
  · have hloops := (Worker.loops_of_loopMove hm).1
    rw [Worker.phase_of_getLast?
      (Worker.getLast?_setLoop (hloops ▸ hlen) { l with seen } ph)]
    exact h.loopMove hin hm (Worker.answers_stepLoop hs hg.calls)

end InHand

/-- The call of a handler does not concern the memory. -/
lemma memory_stepCall {τ : Type} {H : Host τ}
    {s s' : Site (MemoryPlatform × τ)}
    (hs : Worker.stepCall H.platform s w i = some (s', w')) :
    s'.world.1 = s.world.1 := by
  rcases Worker.world_stepCall hs with hw | ⟨hd, t, hw⟩ <;> rw [hw]
  rfl

end MemoryPlatform

end RemoteOps
