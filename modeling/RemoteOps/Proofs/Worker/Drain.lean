/-
A worker empties the queue of a platform in memory before it waits.

Nothing takes time and no call fails.  Then each cycle brings one pending
operation to a terminal status, so that there are as many polls as there
are pending operations, and one more, at which nothing is found.

* `MemoryPlatform.Works`, `Host.IsPrompt`: calls that do not fail, and that
  take no time;
* `Draining`, `Draining.loopMove`: the invariant of platform and loop;
* `WorkerSystem.Emptying`, `WorkerSystem.Emptying.step`: the invariant of
  the worker, and that every step leaves less to do;
* `WorkerSystem.cadence_and_drain`: when a worker polls, and that it
  empties the queue;
* `WorkerSystem.polls_early_of_long_interval`: the interval that counts is
  the one that the clock can wait for.
-/
import RemoteOps.Proofs.Worker.Abort
import RemoteOps.Proofs.Worker.Cadence
import RemoteOps.Proofs.Worker.IssueOrder

namespace RemoteOps

/-! ### Calls that do not fail -/

namespace MemoryPlatform

/-- How many operations are pending. -/
def pending (m : MemoryPlatform) : Nat :=
  m.operations.countP (·.status = .pending)

/-- No call is to fail. -/
structure Works (m : MemoryPlatform) : Prop where
  polls : m.failingPolls = 0
  writes : m.failingWrites = 0

variable {m m' : MemoryPlatform}

/-- A poll is counted. -/
lemma Works.poll_eq (h : m.Works) : m.poll
    = (.ok (m.operations.find? fun o => o.status = .pending),
      { m with polls := m.polls + 1 }) := by
  rw [MemoryPlatform.poll, if_neg (by simp [h.polls])]

/-- A poll that brings nothing finds nothing pending. -/
lemma Works.pending_eq_zero (h : m.Works) (hr : m.poll.1 = .ok none) :
    m.pending = 0 := by
  rw [h.poll_eq] at hr
  refine List.countP_eq_zero.2 fun o ho => ?_
  exact List.find?_eq_none.1 (Except.ok.inj hr) o ho

/-- A write to an operation of the platform does not fail. -/
lemma Works.eq_ok (h : m.Works) (hd : (m.operations.map (·.id)).Nodup)
    {o : Operation} (ho : o ∈ m.operations) {status : Status}
    {reason : Option String} {r : Except Failure Unit}
    (hr : m.writeStatus o.id status reason = (r, m')) : r = .ok () := by
  rw [writeStatus, write, if_neg (by simp [h.writes]),
    if_neg (by simp [operation?_eq_some hd ho])] at hr
  exact (Prod.mk.inj hr).1.symm

/-- A write changes neither how often polls were made nor which calls are
to fail. -/
lemma Works.of_writeStatus (h : m.Works) {id : String} {status : Status}
    {reason : Option String}
    (hr : m.writeStatus id status reason = (.ok (), m')) :
    m'.Works ∧ m'.polls = m.polls := by
  rw [write_ok hr]
  exact ⟨⟨h.polls, h.writes⟩, rfl⟩

end MemoryPlatform

/-- A write of another status leaves one operation less pending, if it was
pending. -/
lemma countP_afterWrite {ops : List Operation}
    (hd : (ops.map (·.id)).Nodup) {o : Operation} (ho : o ∈ ops)
    {w : StatusWrite} (hw : w.id = o.id) (hs : w.status ≠ .pending) :
    (ops.map (·.afterWrite w)).countP (·.status = .pending)
        + (if o.status = .pending then 1 else 0)
      = ops.countP (·.status = .pending) := by
  induction ops with
  | nil => cases ho
  | cons a ops ih =>
    rw [List.map_cons, List.nodup_cons] at hd
    rw [List.map_cons, List.countP_cons, List.countP_cons]
    by_cases ha : a.id = o.id
    · -- this is the one, and no other one has its identifier
      have hother : ∀ b ∈ ops, b.afterWrite w = b := fun b hb => by
        rw [Operation.afterWrite, if_neg]
        rw [hw, ← ha]
        exact fun hid => hd.1 (hid ▸ List.mem_map_of_mem hb)
      obtain rfl : o = a := (List.mem_cons.1 ho).resolve_right fun hmem =>
        hd.1 (ha ▸ List.mem_map_of_mem hmem)
      rw [List.map_congr_left hother, List.map_id', Operation.afterWrite,
        if_pos hw]
      simp [hs]
    · have hmem : o ∈ ops := (List.mem_cons.1 ho).resolve_left fun heq =>
        ha (heq ▸ rfl)
      have hsame : a.afterWrite w = a := by
        rw [Operation.afterWrite, if_neg (hw ▸ Ne.symm ha)]
      rw [hsame]
      have := ih hd.2 hmem
      omega

lemma ne_pending_of_isTerminal {status : Status}
    (h : status.isTerminal = true) : status ≠ .pending := by
  rintro rfl
  cases h

/-! ### What becomes of operations -/

/-- What has become of an operation while the queue is emptied, where one
identifier may be claimed. -/
inductive Settles (claimed : Option String) (o o' : Operation) : Prop where
  | kept (hc : claimed ≠ some o.id) (h : o' = o)
  | claimed (hp : o.status = .pending) (hc : claimed = some o.id)
    (hid : o'.id = o.id) (hs : o'.status = .executing)
  | settled (hp : o.status = .pending) (hc : claimed ≠ some o.id)
    (hid : o'.id = o.id) (ht : o'.status.isTerminal = true)

namespace Settles

variable {claimed claimed' : Option String} {o o' : Operation}
  {w : StatusWrite}

lemma id_eq (h : Settles claimed o o') : o'.id = o.id := by
  cases h with
  | kept _ h => rw [h]
  | claimed _ _ hid | settled _ _ hid => exact hid

/-- A write for another operation, which is the only one that is or was
claimed. -/
lemma of_ne (h : Settles claimed o o') (hne : w.id ≠ o'.id)
    (hc : claimed = none ∨ claimed = some w.id)
    (hc' : claimed' = none ∨ claimed' = some w.id) :
    Settles claimed' o (o'.afterWrite w) := by
  have hother : ∀ c : Option String, c = none ∨ c = some w.id →
      c ≠ some o.id := by
    rintro _ (rfl | rfl) heq
    · cases heq
    · exact hne ((Option.some.inj heq).trans h.id_eq.symm)
  rw [Operation.afterWrite, if_neg hne]
  cases h with
  | kept _ h => exact .kept (hother _ hc') h
  | claimed _ heq => exact absurd heq (hother _ hc)
  | settled hp _ hid ht => exact .settled hp (hother _ hc') hid ht

/-- A write for an operation that is pending, as it was. -/
lemma take (h : Settles none o o') (hp : o'.status = .pending)
    (hw : w.id = o'.id) :
    (w.status.isTerminal = true → Settles none o (o'.afterWrite w))
      ∧ (w.status = .executing →
        Settles (some w.id) o (o'.afterWrite w)) := by
  cases h with
  | claimed _ hc => cases hc
  | settled _ _ _ ht =>
    rw [hp] at ht
    cases ht
  | kept _ h =>
    subst h
    rw [Operation.afterWrite, if_pos hw]
    exact ⟨fun ht => .settled hp (fun hno => by cases hno) rfl ht,
      fun hs => .claimed hp (congrArg some hw) rfl hs⟩

/-- The last write for an operation that was claimed. -/
lemma report (h : Settles (some w.id) o o') (hw : w.id = o'.id)
    (ht : w.status.isTerminal = true) :
    Settles none o (o'.afterWrite w) := by
  have hc : some w.id = some o.id := congrArg some (hw.trans h.id_eq)
  cases h with
  | kept hno | settled _ hno => exact absurd hc hno
  | claimed hp _ hid =>
    rw [Operation.afterWrite, if_pos hw]
    exact .settled hp (fun hno => by cases hno) hid ht

end Settles

namespace LoopPhase

/-- The identifier that a loop has claimed. -/
def claimed? : LoopPhase → Option String
  | .executing o _ | .reporting o _ => some o.id
  | .spawned | .polling _ | .rejecting _ _ | .claiming _ _ _ _ | .idle _
  | .exited => none

/-- Whether a loop is still to poll for the operation that it serves next,
or for nothing. -/
def toPoll : LoopPhase → Nat
  | .rejecting _ _ | .claiming _ _ _ _ | .idle _ => 0
  | .spawned | .polling _ | .executing _ _ | .reporting _ _ | .exited => 1

end LoopPhase

section Answers

variable {τ : Type} {H : Host τ} {x x' : MemoryPlatform × τ}

lemma Platform.Answers.poll_eq {r : Except Failure (Option Operation)}
    (h : H.platform.Answers x [.poll r] x') : x.1.poll = (r, x'.1) := by
  have hr : x.1.poll.1 = r := congrArg Prod.fst h.of_poll
  have hx : x.1.poll.2 = x'.1 := congrArg (·.2.1) h.of_poll
  exact Prod.ext hr hx

lemma Platform.Answers.writeStatus_eq {id : String} {status : Status}
    {reason : Option String} {r : Except Failure Unit}
    (h : H.platform.Answers x [.status id status reason r] x') :
    x.1.writeStatus id status reason = (r, x'.1) := by
  have hr : (x.1.writeStatus id status reason).1 = r :=
    congrArg Prod.fst h.of_status
  have hx : (x.1.writeStatus id status reason).2 = x'.1 :=
    congrArg (·.2.1) h.of_status
  exact Prod.ext hr hx

end Answers

/-! ### The platform and the loop -/

/-- The operation that a loop has in hand is one of the platform, and
pending until it is claimed.  A loop that waits has left none pending. -/
def MemoryPlatform.Serves (m : MemoryPlatform) : LoopPhase → Prop
  | .rejecting o _ | .claiming o _ _ _ =>
    ∃ o' ∈ m.operations, o'.id = o.id ∧ o'.status = .pending
  | .executing o _ | .reporting o _ =>
    ∃ o' ∈ m.operations, o'.id = o.id ∧ o'.status ≠ .pending
  | .idle _ => m.pending = 0
  | .spawned | .polling _ => True
  | .exited => False

/-- A platform whose queue a loop empties, from what it was when the first
poll began. -/
structure Draining (m₀ m : MemoryPlatform) (ph : LoopPhase) : Prop where
  works : m.Works
  settles : List.Forall₂ (Settles ph.claimed?) m₀.operations m.operations
  serves : m.Serves ph
  /-- How many polls there will be in the end. -/
  counted : m.polls + m.pending + ph.toPoll = m₀.polls + m₀.pending + 1

namespace Draining

variable {m₀ m m' : MemoryPlatform} {ph ph' : LoopPhase}

/-- The operations keep their places. -/
lemma ids_eq (h : Draining m₀ m ph) :
    m.operations.map (·.id) = m₀.operations.map (·.id) := by
  have hall := h.settles
  generalize m.operations = ops at hall
  generalize m₀.operations = ops₀ at hall
  induction hall with
  | nil => rfl
  | cons ha _ ih => rw [List.map_cons, List.map_cons, ha.id_eq, ih]

/-- The loop goes on and has nothing to do with the platform. -/
lemma goesOn (h : Draining m₀ m ph) (hc : ph'.claimed? = ph.claimed?)
    (ht : ph'.toPoll = ph.toPoll) (hs : m.Serves ph') :
    Draining m₀ m ph' :=
  ⟨h.works, hc ▸ h.settles, hs, ht ▸ h.counted⟩

/-- A poll that finds nothing. -/
lemma nothing {due due' : Nat} (h : Draining m₀ m (.polling due))
    (hr : m.poll = (.ok none, m')) : Draining m₀ m' (.idle due') := by
  have hzero := h.works.pending_eq_zero (congrArg Prod.fst hr)
  rw [h.works.poll_eq] at hr
  rw [← (Prod.mk.inj hr).2]
  refine ⟨⟨h.works.polls, h.works.writes⟩, h.settles, hzero, ?_⟩
  have hcounted : m.polls + m.pending + 1 = _ := h.counted
  show m.polls + 1 + m.pending + 0 = _
  omega

/-- A poll that brings an operation, which the loop is about to reject or
to claim. -/
lemma fetched {o : Operation} {due : Nat}
    (h : Draining m₀ m (.polling due)) (hr : m.poll = (.ok (some o), m'))
    (hc : ph'.claimed? = none) (ht : ph'.toPoll = 0)
    (hserves : (∃ o' ∈ m'.operations, o'.id = o.id
      ∧ o'.status = .pending) → m'.Serves ph') : Draining m₀ m' ph' := by
  obtain ⟨hmem, hp⟩ := MemoryPlatform.mem_of_poll (congrArg Prod.fst hr)
  rw [h.works.poll_eq] at hr
  obtain rfl := (Prod.mk.inj hr).2
  refine ⟨⟨h.works.polls, h.works.writes⟩, hc ▸ h.settles,
    hserves ⟨o, hmem, rfl, hp⟩, ?_⟩
  have hcounted : m.polls + m.pending + 1 = _ := h.counted
  show m.polls + 1 + m.pending + ph'.toPoll = _
  omega

/-- A write for an operation of the platform. -/
lemma write (h : Draining m₀ m ph) (hd : (m₀.operations.map (·.id)).Nodup)
    {o : Operation} (ho : o ∈ m.operations) {status : Status}
    {reason : Option String} (hs : status ≠ .pending)
    (hself : ∀ a, Settles ph.claimed? a o →
      Settles ph'.claimed? a (o.afterWrite ⟨o.id, status, reason⟩))
    (hc : ph.claimed? = none ∨ ph.claimed? = some o.id)
    (hc' : ph'.claimed? = none ∨ ph'.claimed? = some o.id)
    (ht : ph'.toPoll = ph.toPoll + if o.status = .pending then 1 else 0)
    (hserves : m'.operations
      = m.operations.map (·.afterWrite ⟨o.id, status, reason⟩) →
        m'.Serves ph')
    (hr : m.writeStatus o.id status reason = (.ok (), m')) :
    Draining m₀ m' ph' := by
  have hnd : (m.operations.map (·.id)).Nodup := h.ids_eq ▸ hd
  obtain ⟨hops, -⟩ := MemoryPlatform.operations_writeStatus hnd hr
  obtain ⟨hworks, hpolls⟩ := h.works.of_writeStatus hr
  refine ⟨hworks, ?_, hserves hops, ?_⟩
  · rw [hops, List.forall₂_map_right_iff]
    obtain ⟨hlen, hget⟩ := List.forall₂_iff_get.1 h.settles
    refine List.forall₂_iff_get.2 ⟨hlen, fun i hi hi' => ?_⟩
    have hset := hget i hi hi'
    have hmem := List.get_mem m.operations ⟨i, hi'⟩
    generalize m.operations.get ⟨i, hi'⟩ = o' at hset hmem
    by_cases hid : o.id = o'.id
    · obtain rfl := List.inj_on_of_nodup_map hnd ho hmem hid
      exact hself _ hset
    · exact hset.of_ne hid hc hc'
  · have hcount := countP_afterWrite hnd ho (w := ⟨o.id, status, reason⟩)
      rfl hs
    have hcounted := h.counted
    rw [hpolls, MemoryPlatform.pending, hops, ht]
    rw [MemoryPlatform.pending] at hcounted
    omega

/-- The write that rejects an operation. -/
lemma rejected {o : Operation} {due : Nat} {r : Except Failure Unit}
    (h : Draining m₀ m (.rejecting o due))
    (hd : (m₀.operations.map (·.id)).Nodup) (ht : o.status.isTerminal = true)
    (hr : m.writeStatus o.id o.status o.failureReason = (r, m')) :
    r = .ok () ∧ ∀ due', Draining m₀ m' (.polling due') := by
  obtain ⟨o', ho', hid, hp⟩ := h.serves
  rw [← hid] at hr
  obtain rfl := h.works.eq_ok (h.ids_eq ▸ hd) ho' hr
  exact ⟨rfl, fun _ => h.write hd ho' (ne_pending_of_isTerminal ht)
    (fun a hset => (hset.take hp rfl).1 ht) (.inl rfl) (.inl rfl)
    (by rw [if_pos hp]; rfl) (fun _ => trivial) hr⟩

/-- The write that claims an operation. -/
lemma claimed {o : Operation} {t : TypedOperation} {hd' : Handler}
    {due : Nat} {r : Except Failure Unit}
    (h : Draining m₀ m (.claiming o t hd' due))
    (hd : (m₀.operations.map (·.id)).Nodup) (hs : o.status = .executing)
    (hr : m.writeStatus o.id o.status o.failureReason = (r, m')) :
    r = .ok () ∧ ∀ n, Draining m₀ m' (.executing o n) := by
  obtain ⟨o', ho', hid, hp⟩ := h.serves
  rw [← hid] at hr
  obtain rfl := h.works.eq_ok (h.ids_eq ▸ hd) ho' hr
  have hclaimed : some o'.id = some o.id := congrArg some hid
  have hpending : o.status ≠ .pending := by
    rw [hs]
    exact Status.noConfusion
  refine ⟨rfl, fun n => h.write hd ho' hpending (fun a hset => ?_)
    (.inl rfl) (.inr hclaimed.symm) (by rw [if_pos hp]; rfl)
    (fun hops => ?_) hr⟩
  · have htake := (hset.take
      (w := ⟨o'.id, o.status, o.failureReason⟩) hp rfl).2 hs
    rwa [hclaimed] at htake
  · refine ⟨_, hops ▸ List.mem_map_of_mem ho', ?_, ?_⟩
    · rw [Operation.id_afterWrite, hid]
    · rw [Operation.afterWrite, if_pos rfl]
      exact hpending

/-- The write of what came of an operation. -/
lemma reported {o : Operation} {due : Nat} {r : Except Failure Unit}
    (h : Draining m₀ m (.reporting o due))
    (hd : (m₀.operations.map (·.id)).Nodup) (ht : o.status.isTerminal = true)
    (hr : m.writeStatus o.id o.status o.failureReason = (r, m')) :
    r = .ok () ∧ ∀ due', Draining m₀ m' (.polling due') := by
  obtain ⟨o', ho', hid, hp⟩ := h.serves
  rw [← hid] at hr
  obtain rfl := h.works.eq_ok (h.ids_eq ▸ hd) ho' hr
  have hclaimed : some o.id = some o'.id := congrArg some hid.symm
  exact ⟨rfl, fun _ => h.write hd ho' (ne_pending_of_isTerminal ht)
    (fun a hset => Settles.report (hclaimed ▸ hset) rfl ht)
    (.inr hclaimed) (.inl rfl) (by rw [if_neg hp]; rfl)
    (fun _ => trivial) hr⟩

/-- The moves of a loop that does not wait. -/
theorem loopMove {τ : Type} {H : Host τ} {x x' : MemoryPlatform × τ}
    {w w₁ : Worker} {calls : List HandlerCall} {cur new : List Event}
    (h : Draining m₀ x.1 ph) (hd : (m₀.operations.map (·.id)).Nodup)
    (hin : InCycle w.table calls cur ph) (hrun : w.running = true)
    (hidle : ∀ due, ph ≠ .idle due) (hm : LoopMove w ph new w₁ ph')
    (ha : H.platform.Answers x new x') : Draining m₀ x'.1 ph' := by
  -- a loop that is not told to stop goes on with the next poll
  have hrenews : w.Renews ph' → ∃ due, ph' = .polling due := by
    rintro (⟨-, hpoll⟩ | ⟨hno, -⟩)
    · exact hpoll
    · rw [hrun] at hno
      cases hno
  cases hm with
  | begin hr =>
    obtain ⟨due, rfl⟩ := hrenews hr
    rw [ha.of_nil]
    exact h.goesOn rfl rfl trivial
  | wake => exact absurd rfl (hidle _)
  | pollFailed =>
    have hr := ha.poll_eq
    rw [h.works.poll_eq] at hr
    cases hr
  | nothing => exact h.nothing ha.poll_eq
  | refuse hne =>
    have hmem := MemoryPlatform.mem_of_poll (congrArg Prod.fst ha.poll_eq)
    exact absurd hmem.2 hne
  | reject | accept => exact h.fetched ha.poll_eq rfl rfl id
  | rejected hr =>
    obtain ⟨o, reason, -, -, rfl⟩ := hin
    obtain ⟨rfl, hall⟩ := h.rejected hd rfl ha.writeStatus_eq
    obtain ⟨due', rfl⟩ := hrenews hr
    exact hall due'
  | claimed =>
    obtain ⟨o, -, -, rfl⟩ := hin
    exact (h.claimed hd rfl ha.writeStatus_eq).2 _
  | unclaimed =>
    obtain ⟨o, -, -, rfl⟩ := hin
    cases (h.claimed hd rfl ha.writeStatus_eq).1
  | conclude _ hc =>
    obtain ⟨o, c, -, -, rfl, -⟩ := hin
    obtain ⟨due, rfl⟩ := hc.2 rfl
    rw [ha.of_nil]
    exact h.goesOn rfl rfl h.serves
  | reported hr =>
    obtain ⟨o, t, hd', out, -, -, rfl⟩ := hin
    obtain ⟨rfl, hall⟩ :=
      h.reported hd (report_isTerminal out) ha.writeStatus_eq
    obtain ⟨due', rfl⟩ := hrenews hr
    exact hall due'

end Draining

/-! ### Where nothing takes time -/

/-- Neither the platform nor a handler lets anybody wait. -/
structure Host.IsPrompt {τ : Type} (H : Host τ) : Prop where
  delay : ∀ x c, H.delay x c = 0
  execute : ∀ x h t, (H.execute x h t).1.delay = 0

/-- A loop that can go on, or has just begun to wait for the next poll. -/
def LoopPhase.IsReady (wait now : Nat) : LoopPhase → Prop
  | .polling due | .rejecting _ due | .claiming _ _ _ due
  | .reporting _ due => due ≤ now
  | .idle due => due = now + wait
  | .spawned | .executing _ _ | .exited => True

/-- A loop that polls without a wait. -/
def LoopPhase.PollsAt (now : Nat) (ph : LoopPhase) : Prop :=
  ph = .spawned ∨ ∃ due ≤ now, ph = .polling due

/-- A call of a handler that need not wait. -/
def HandlerCall.IsReady (now : Nat) (c : HandlerCall) : Prop :=
  ∀ due, Worker.callWake? c = some due → due ≤ now

lemma LoopPhase.IsReady.le {ph : LoopPhase} {wait now due : Nat}
    (h : ph.IsReady wait now) (hidle : ∀ due, ph ≠ .idle due)
    (hw : Worker.wake? { phase := ph, seen := 0 } = some due) :
    due ≤ now := by
  cases ph with
  | spawned | executing | exited => cases hw
  | idle d => exact absurd rfl (hidle d)
  | polling | rejecting | claiming | reporting =>
    exact Option.some.inj hw ▸ h

section Prompt

variable {τ : Type} {H : Host τ} {s s' : Site (MemoryPlatform × τ)}
  {w w' : Worker} {n : Nat} {c : HandlerCall}

lemma Host.IsPrompt.due_eq (h : H.IsPrompt)
    (s : Site (MemoryPlatform × τ)) (call : Call) :
    s.due H.platform call = s.now := by
  show s.now + min (H.delay s.world call) Clock.longestWait = s.now
  rw [h.delay, Nat.zero_min, Nat.add_zero]

/-- A loop that has made a step need not wait, unless for the next
poll. -/
lemma Host.IsPrompt.isReady (h : H.IsPrompt) {interval : Span}
    {ph : LoopPhase} (hnow : s'.now = s.now)
    (hdue : Worker.IsDue H.platform (interval.max Worker.minInterval) s.now
      s' ph) : ph.IsReady (Worker.restTime interval) s.now := by
  cases ph with
  | spawned | executing | exited => trivial
  | idle due => exact hdue
  | polling due | rejecting _ due | claiming _ _ _ due | reporting _ due =>
    exact le_of_eq (calc
      due = s'.due H.platform _ := hdue
      _ = s'.now := h.due_eq _ _
      _ = s.now := hnow)

/-- A call of a handler that is open can take a step when it is time. -/
lemma Worker.exists_stepCall {σ : Type} (p : Platform σ) {s : Site σ}
    (hc : w.calls[n]? = some c) (ho : c.isOver = false)
    (hready : c.IsReady s.now) : ∃ r, stepCall p s w n = some r := by
  rw [stepCall, hc]
  simp only [ho, Bool.false_eq_true, if_false]
  split
  · exact ⟨_, rfl⟩
  · cases hph : c.phase with
    | spawned => exact ⟨_, rfl⟩
    | running due outcome =>
      simp only [hready due (by rw [callWake?, hph]), if_true]
      exact ⟨_, rfl⟩
    | ended r =>
      rw [HandlerCall.isOver, HandlerCall.result?, hph] at ho
      cases ho

/-- A handler that was called need not wait. -/
lemma Worker.isReady_stepCall (hp : H.IsPrompt)
    (h : ∀ c ∈ w.calls, c.IsReady s.now)
    (hs : stepCall H.platform s w n = some (s', w')) :
    ∀ c ∈ w'.calls, c.IsReady s.now := by
  have hset : ∀ (c : HandlerCall) (ph : CallPhase),
      ({ c with phase := ph } : HandlerCall).IsReady s.now →
      ∀ c' ∈ (w.setCall n c ph).calls, c'.IsReady s.now :=
    fun c ph hc => forall_mem_set h hc n
  have hended : ∀ (c : HandlerCall) (r : Option Outcome),
      ({ c with phase := .ended r } : HandlerCall).IsReady s.now :=
    fun c r due hw => by cases hw
  rw [stepCall] at hs
  split at hs
  · next c hc =>
    split at hs
    · cases hs
    · split at hs
      · cases hs
        exact hset c _ (hended c _)
      · split at hs
        · cases hs
          refine hset c _ fun due hw => ?_
          obtain rfl := Option.some.inj hw
          show s.now + min (H.execute s.world c.handler c.operation).1.delay _
            ≤ s.now
          rw [hp.execute, Nat.zero_min, Nat.add_zero]
        · split at hs
          · cases hs
            exact hset c _ (hended c _)
          · cases hs
        · cases hs
  · cases hs

end Prompt

/-! ### How much is left to do -/

/-- Every poll is counted. -/
lemma polls_of_answers {τ : Type} {H : Host τ} {x x' : MemoryPlatform × τ}
    {es : List Event} (h : H.platform.Answers x es x') :
    x'.1.polls = x.1.polls + es.countP Event.isPoll := by
  cases h with
  | none => rfl
  | poll =>
    show x.1.poll.2.polls = x.1.polls + 1
    rw [MemoryPlatform.poll]
    dsimp only
    split <;> rfl
  | status id status reason =>
    show (x.1.writeStatus id status reason).2.polls = x.1.polls
    rw [MemoryPlatform.writeStatus, MemoryPlatform.write]
    split
    · rfl
    · split <;> rfl

/-- How many steps a loop takes at most until the next poll starts. -/
def LoopPhase.steps : LoopPhase → Nat
  | .polling _ | .idle _ | .exited => 0
  | .spawned | .rejecting _ _ | .reporting _ _ => 1
  | .executing _ _ => 2
  | .claiming _ _ _ _ => 5

/-- How many steps a worker takes at most until the next poll starts. -/
def Worker.steps (w : Worker) : Nat :=
  w.phase.steps + (w.calls.map HandlerCall.steps).sum

/-- A loop that goes on has less to do, unless it has polled. -/
lemma LoopMove.steps_lt {w w₁ : Worker} {ph ph' : LoopPhase}
    {new : List Event} (h : LoopMove w ph new w₁ ph')
    (hidle : ∀ due, ph ≠ .idle due) :
    ph'.steps + (w₁.calls.map HandlerCall.steps).sum
      < ph.steps + (w.calls.map HandlerCall.steps).sum
        + 8 * new.countP Event.isPoll := by
  have hends : ∀ {r : Except Failure Unit}, w.Ends r ph' →
      ph'.steps = 0 := by
    rintro (e | u) hr
    · obtain ⟨due, rfl⟩ := hr
      rfl
    · rcases hr with ⟨-, due, rfl⟩ | ⟨-, rfl⟩ <;> rfl
  cases h with
  | begin hr =>
    rcases hr with ⟨-, due, rfl⟩ | ⟨-, rfl⟩ <;> simp [LoopPhase.steps]
  | wake => exact absurd rfl (hidle _)
  | pollFailed | nothing | refuse =>
    show 0 + _ < 0 + _ + 8 * 1
    omega
  | reject =>
    show 1 + _ < 0 + _ + 8 * 1
    omega
  | accept =>
    show 5 + _ < 0 + _ + 8 * 1
    omega
  | rejected hr | reported hr =>
    rw [hends hr]
    show 0 + _ < 1 + _ + 8 * 0
    omega
  | claimed =>
    -- the call that is made takes two steps
    rw [Worker.spawnCall, List.map_append, List.sum_append]
    show 2 + (_ + 2) < 5 + _ + 8 * 0
    omega
  | unclaimed =>
    show 0 + _ < 5 + _ + 8 * 0
    omega
  | conclude _ hc =>
    rcases hc.1 with ⟨o', due, rfl⟩ | ⟨due, rfl⟩ <;> simp [LoopPhase.steps]

/-! ### The worker -/

/-- The end of a cycle that has processed nothing. -/
def Beat.isRest : Beat → Bool
  | .ends _ false => true
  | _ => false

/-- How often a loop has come to wait for the next poll, if it never did
so before. -/
def LoopPhase.rests : LoopPhase → Nat
  | .idle _ => 1
  | _ => 0

lemma LoopMove.rests_eq {w w₁ : Worker} {ph ph' : LoopPhase}
    {new : List Event} (h : LoopMove w ph new w₁ ph')
    (hidle : ∀ due, ph ≠ .idle due) (t : Nat) :
    (ph.beats t ph').countP Beat.isRest = ph'.rests := by
  cases h with
  | begin hr =>
    rcases hr with ⟨-, due, rfl⟩ | ⟨-, rfl⟩ <;> rfl
  | wake => exact absurd rfl (hidle _)
  | pollFailed | nothing | refuse | reject | accept | claimed
  | unclaimed => rfl
  | @rejected _ _ _ r hr | @reported _ _ _ r hr =>
    cases r with
    | error e =>
      obtain ⟨due, rfl⟩ := hr
      rfl
    | ok u => rcases hr with ⟨-, due, rfl⟩ | ⟨-, rfl⟩ <;> rfl
  | conclude _ hc =>
    rcases hc.1 with ⟨o', due, rfl⟩ | ⟨due, rfl⟩ <;> rfl

namespace WorkerSystem

variable {τ : Type} {H : Host τ} {site : Site (MemoryPlatform × τ)}
  {table : HandlerTable} {interval : Span} {beats : List Beat}
  {s₀ s s' : WorkerSystem (MemoryPlatform × τ)}

/-- A worker that empties the queue of the platform in `s₀`, and waits
for the next poll at most since the last step. -/
structure Emptying (H : Host τ) (site : Site (MemoryPlatform × τ))
    (table : HandlerTable) (interval : Span) (beats : List Beat)
    (s₀ s : WorkerSystem (MemoryPlatform × τ)) : Prop where
  running : ∃ new, Running H.platform site table interval (beats ++ new) s
    ∧ new.countP Beat.isRest = s.worker.phase.rests
  now : s.site.now = s₀.site.now
  draining : Draining s₀.site.world.1 s.site.world.1 s.worker.phase
  loop : s.worker.phase.IsReady (Worker.restTime interval) s.site.now
  calls : ∀ c ∈ s.worker.calls, c.IsReady s.site.now

/-- The queue of `s₀` is empty, and the worker has just begun to wait, for
the first time. -/
structure Drained (p : Platform (MemoryPlatform × τ))
    (site : Site (MemoryPlatform × τ)) (table : HandlerTable)
    (interval : Span) (beats : List Beat)
    (s₀ s : WorkerSystem (MemoryPlatform × τ)) : Prop where
  now : s.site.now = s₀.site.now
  waits : s.worker.phase
    = .idle (s₀.site.now + Worker.restTime interval)
  first : ∃ new, Running p site table interval (beats ++ new) s
    ∧ new.countP Beat.isRest = 1
  /-- There was one poll for every operation that was pending, and one
  more. -/
  polls : s.site.world.1.polls
    = s₀.site.world.1.polls + s₀.site.world.1.pending + 1
  /-- What was pending has come to a terminal status. -/
  operations : List.Forall₂ (fun o o' => o'.id = o.id
      ∧ (o.status = .pending → o'.status.isTerminal = true)
      ∧ (o.status ≠ .pending → o' = o))
    s₀.site.world.1.operations s.site.world.1.operations

namespace Emptying

/-- When the loop waits for the next poll, the queue is empty. -/
lemma drained (h : Emptying H site table interval beats s₀ s) {due : Nat}
    (hph : s.worker.phase = .idle due) :
    Drained H.platform site table interval beats s₀ s := by
  obtain ⟨⟨new, hrun, hrests⟩, hnow, hd, hloop, -⟩ := h
  rw [hph] at hrests hd hloop
  have hnone : s.site.world.1.pending = 0 := hd.serves
  refine ⟨hnow, ?_, ⟨new, hrun, hrests⟩, ?_, ?_⟩
  · rw [hph, ← hnow]
    exact congrArg _ hloop
  · have hcounted := hd.counted
    rwa [hnone] at hcounted
  · obtain ⟨hlen, hget⟩ := List.forall₂_iff_get.1 hd.settles
    refine List.forall₂_iff_get.2 ⟨hlen, fun i hi hi' => ?_⟩
    have hset := hget i hi hi'
    refine ⟨hset.id_eq, ?_⟩
    cases hset with
    | claimed _ hc => cases hc
    | settled hp _ _ ht => exact ⟨fun _ => ht, fun hno => absurd hp hno⟩
    | kept _ heq =>
      refine ⟨fun hp => ?_, fun _ => heq⟩
      have hno := List.countP_eq_zero.1 hnone _ (List.get_mem _ ⟨i, hi'⟩)
      rw [heq] at hno
      exact absurd (decide_eq_true hp) hno

/-- Until the loop waits for the next poll, somebody can go on. -/
lemma not_idle (h : Emptying H site table interval beats s₀ s)
    (hne : ∀ due, s.worker.phase ≠ .idle due) :
    ¬ (machine H.platform).Idle s := by
  intro hidle
  obtain ⟨new, hrun, -⟩ := h.running
  refine hrun.alone.not_idle (fun due hdue => h.loop.le hne hdue)
    (fun o n hex => ?_) hidle
  obtain ⟨before, cur, ht⟩ := hrun.held.isTraced
  obtain ⟨-, c, hc, -⟩ := ht.engaged.executing o n hex
  rw [hc, Option.any_some]
  by_contra ho
  obtain ⟨r, hr⟩ := Worker.exists_stepCall H.platform hc (by simpa using ho)
    (h.calls c (List.mem_of_getElem? hc))
  cases hr.symm.trans (Option.map_eq_none_iff.1 (hidle (.call n)))

/-- A loop that did not wait before has come to wait once at most. -/
lemma running_step (h : Emptying H site table interval beats s₀ s)
    (hne : ∀ due, s.worker.phase ≠ .idle due)
    (hs : (machine H.platform).Step s s') :
    ∃ new, Running H.platform site table interval (beats ++ new) s'
      ∧ new.countP Beat.isRest = s'.worker.phase.rests := by
  obtain ⟨new, hrun, hrests⟩ := h.running
  have hrun' := hrun.step hs
  rw [List.append_assoc] at hrun'
  refine ⟨_, hrun', ?_⟩
  rw [List.countP_append, hrests]
  cases hrun.turn hs with
  | wait hidle => exact absurd hidle (h.not_idle hne)
  | loop hl ht =>
    obtain ⟨es, w₁, hm, -⟩ := ht.move
    have hzero : s.worker.phase.rests = 0 := by
      cases hph : s.worker.phase with
      | idle due => exact absurd hph (hne due)
      | _ => rfl
    rw [hzero, Nat.zero_add]
    exact hm.rests_eq hne _
  | call hc =>
    dsimp only
    rw [(same_of_stepCall hc).2.1, LoopPhase.beats_self]
    rfl

/-- The loop takes a step. -/
lemma stepLoop (h : Emptying H site table interval beats s₀ s)
    (hp : H.IsPrompt)
    (hd : (s₀.site.world.1.operations.map (·.id)).Nodup)
    (hne : ∀ due, s.worker.phase ≠ .idle due) {i : Nat}
    {site' : Site (MemoryPlatform × τ)} {w : Worker}
    (hl : Worker.stepLoop H.platform s.site s.worker i = some (site', w))
    (ht : Worker.Turns H.platform s.site s.worker site' w)
    (hs : (machine H.platform).Step s { s with
      site := site'
      worker := w }) :
    Emptying H site table interval beats s₀ { s with
        site := site'
        worker := w }
      ∧ w.steps + 8 * s.site.world.1.polls
        < s.worker.steps + 8 * site'.world.1.polls := by
  obtain ⟨new, hrun, -⟩ := h.running
  obtain ⟨before, cur, htr⟩ := hrun.held.isTraced
  obtain ⟨es, w₁, hm, hg, hcalls⟩ := ht.move
  have hanswers := Worker.answers_stepLoop hl hg.calls
  have hdue := ht.isDue
  rw [hrun.held.interval_eq] at hdue
  refine ⟨⟨h.running_step hne hs, hg.now.trans h.now, ?_, ?_, ?_⟩, ?_⟩
  · exact h.draining.loopMove hd htr.traced.inCycle hrun.alone.running hne
      hm hanswers
  · show w.phase.IsReady _ site'.now
    rw [hg.now]
    exact hp.isReady hg.now hdue
  · show ∀ c ∈ w.calls, c.IsReady site'.now
    rw [hcalls, hg.now]
    rcases Worker.loopMove_cases hm with
      ⟨rfl, -⟩ | ⟨o, t, hd', due, -, rfl, -⟩ | ⟨o, n, r, -, -, rfl, -⟩
    · exact h.calls
    · -- the call that is made has not begun
      intro c hc
      rcases List.mem_append.1 hc with hc | hc
      · exact h.calls c hc
      · obtain rfl := List.mem_singleton.1 hc
        exact fun due hw => by cases hw
    · exact h.calls
  · have hpolls := polls_of_answers hanswers
    have hlt := hm.steps_lt hne
    rw [Worker.steps, Worker.steps, hcalls]
    omega

/-- A call of a handler takes a step. -/
lemma stepCall (h : Emptying H site table interval beats s₀ s)
    (hp : H.IsPrompt) (hne : ∀ due, s.worker.phase ≠ .idle due) {n : Nat}
    {site' : Site (MemoryPlatform × τ)} {w : Worker}
    (hc : Worker.stepCall H.platform s.site s.worker n = some (site', w))
    (hs : (machine H.platform).Step s { s with
      site := site'
      worker := w }) :
    Emptying H site table interval beats s₀ { s with
        site := site'
        worker := w }
      ∧ w.steps < s.worker.steps
      ∧ site'.world.1 = s.site.world.1 := by
  obtain ⟨hnow, hphase, -⟩ := same_of_stepCall hc
  have hmem := MemoryPlatform.memory_stepCall hc
  refine ⟨⟨h.running_step hne hs, hnow.trans h.now, ?_, ?_, ?_⟩, ?_, hmem⟩
  · show Draining _ site'.world.1 w.phase
    rw [hmem, hphase]
    exact h.draining
  · show w.phase.IsReady _ site'.now
    rw [hphase, hnow]
    exact h.loop
  · show ∀ c ∈ w.calls, c.IsReady site'.now
    rw [hnow]
    exact Worker.isReady_stepCall hp h.calls hc
  · obtain ⟨c, es, ph, hget, hm, -, rfl⟩ := Worker.stepCall_cases hc
    rw [Worker.steps, Worker.steps, hphase]
    have hsum := sum_map_set HandlerCall.steps hget { c with phase := ph }
    have hlt : ({ c with phase := ph } : HandlerCall).steps < c.steps :=
      hm.steps_lt
    show _ + (List.map _ (s.worker.calls.set n { c with phase := ph })).sum
      < _
    omega

/-- Until the loop waits for the next poll, every step leaves less to
do. -/
theorem step (h : Emptying H site table interval beats s₀ s)
    (hp : H.IsPrompt)
    (hd : (s₀.site.world.1.operations.map (·.id)).Nodup)
    (hne : ∀ due, s.worker.phase ≠ .idle due)
    (hs : (machine H.platform).Step s s') :
    Emptying H site table interval beats s₀ s'
      ∧ 8 * (s'.site.world.1.pending + s'.worker.phase.toPoll)
          + s'.worker.steps
        < 8 * (s.site.world.1.pending + s.worker.phase.toPoll)
          + s.worker.steps := by
  obtain ⟨new, hrun, -⟩ := h.running
  have hcounted := h.draining.counted
  cases hrun.turn hs with
  | wait hidle => exact absurd hidle (h.not_idle hne)
  | loop hl ht =>
    obtain ⟨h', hlt⟩ := h.stepLoop hp hd hne hl ht hs
    refine ⟨h', ?_⟩
    have hcounted' := h'.draining.counted
    dsimp only at hcounted' ⊢
    omega
  | call hc =>
    obtain ⟨h', hlt, hmem⟩ := h.stepCall hp hne hc hs
    refine ⟨h', ?_⟩
    have hcounted' := h'.draining.counted
    dsimp only at hcounted' ⊢
    rw [hmem] at hcounted' ⊢
    omega

/-- The queue comes to be empty. -/
theorem inevitable (h : Emptying H site table interval beats s₀ s)
    (hp : H.IsPrompt)
    (hd : (s₀.site.world.1.operations.map (·.id)).Nodup) :
    (machine H.platform).Inevitable
      (Drained H.platform site table interval beats s₀) s := by
  have hne : ∀ {s}, Emptying H site table interval beats s₀ s →
      ¬ Drained H.platform site table interval beats s₀ s →
      ∀ due, s.worker.phase ≠ .idle due := fun h hno due hph =>
    hno (h.drained hph)
  exact .of_busy (fun s => 8 * (s.site.world.1.pending
      + s.worker.phase.toPoll) + s.worker.steps)
    (fun s h hno => h.not_idle (hne h hno))
    (fun s s' h hno hs => h.step hp hd (hne h hno) hs) h

end Emptying

/-- Before the first poll the queue is as it was. -/
lemma emptying_of_pollsAt
    (h : Running H.platform site table interval beats s)
    (hph : s.worker.phase.PollsAt s.site.now)
    (hw : s.site.world.1.Works) :
    Emptying H site table interval beats s s := by
  obtain ⟨hrests, hclaimed, hserves, hpoll, hready, hfree⟩ :
      s.worker.phase.rests = 0 ∧ s.worker.phase.claimed? = none
        ∧ s.site.world.1.Serves s.worker.phase ∧ s.worker.phase.toPoll = 1
        ∧ s.worker.phase.IsReady (Worker.restTime interval) s.site.now
        ∧ ∀ o n, s.worker.phase ≠ .executing o n := by
    rcases hph with hph | ⟨due, hdue, hph⟩ <;> rw [hph]
    · exact ⟨rfl, rfl, trivial, rfl, trivial, fun o n => by simp⟩
    · exact ⟨rfl, rfl, trivial, rfl, hdue, fun o n => by simp⟩
  refine ⟨⟨[], (List.append_nil beats).symm ▸ h, hrests.symm⟩, rfl,
    ⟨hw, ?_, hserves, congrArg _ hpoll⟩, hready, fun c hc due hwake => ?_⟩
  · rw [hclaimed]
    exact List.forall₂_same.2 fun o _ => .kept (fun hno => by cases hno) rfl
  · -- a call that could wait would be open
    obtain ⟨n, hn⟩ := List.mem_iff_getElem?.1 hc
    have hover := h.isOver hn fun o => hfree o n
    rw [callWake?_of_isOver hover] at hwake
    cases hwake

/-- As long as nobody calls a worker, it polls at once after a cycle that
has processed an operation, and after every other cycle once the interval
is over, as far as the clock can wait for it.  From a poll on it empties
the queue of a platform in memory that does not fail, if nothing takes
time: whatever the handlers return, all pending operations come to a
terminal status before it waits. -/
theorem cadence_and_drain :
    (∀ {σ : Type} {p : Platform σ} {site : Site σ} {table : HandlerTable}
      {interval : Span} {beats : List Beat} {s : WorkerSystem σ},
      Running p site table interval beats s →
        Cadence p (Worker.restTime interval) beats s)
    ∧ ∀ {τ : Type} {H : Host τ} {site : Site (MemoryPlatform × τ)}
      {table : HandlerTable} {interval : Span} {beats : List Beat}
      {s : WorkerSystem (MemoryPlatform × τ)}, H.IsPrompt →
      Running H.platform site table interval beats s →
      s.worker.phase.PollsAt s.site.now → s.site.world.1.Works →
      (s.site.world.1.operations.map (·.id)).Nodup →
        (machine H.platform).Inevitable
          (Drained H.platform site table interval beats s) s :=
  ⟨cadence_of_running, fun hp h hph hw hd =>
    (emptying_of_pollsAt h hph hw).inevitable hp hd⟩

lemma isPrompt_prompt : Host.prompt.IsPrompt :=
  ⟨fun _ _ => rfl, fun _ _ _ => rfl⟩

/-- A worker that is not started, with an operation pending for its handler
and one that nobody takes. -/
def newWorker : WorkerSystem (MemoryPlatform × Unit) where
  site := { world := ({ operations := [
    (Operation.new "1").withFragment Kind.restart (.object []),
    (Operation.new "2").withFragment Kind.softwareList (.object [])] }, ()) }
  worker := .new (.ofRegistrations [⟨restarter, restarter.kinds⟩])
    (.ofMillis 0)

/-- After a start it polls three times before it waits, for as long as the
shortest interval. -/
theorem cadence_and_drain_newWorker :
    let p := Host.prompt.platform
    let table := HandlerTable.ofRegistrations [⟨restarter, restarter.kinds⟩]
    ∃ s, newWorker.start? = some s
      ∧ Running p newWorker.site table (.ofMillis 0) [] s
      ∧ Cadence p 100 [] s
      ∧ s.site.world.1.pending = 2
      ∧ (machine p).Inevitable
        (Drained p newWorker.site table (.ofMillis 0) [] s) s := by
  intro p table
  have h : Running p newWorker.site table (.ofMillis 0) [] _ :=
    .start .new (fun c hc => by cases hc) rfl
  have hrest : Worker.restTime (.ofMillis 0) = 100 := by decide +kernel
  exact ⟨_, rfl, h, hrest ▸ cadence_and_drain.1 h, by decide +kernel,
    cadence_and_drain.2 isPrompt_prompt h (.inl rfl) ⟨rfl, rfl⟩
      (by decide +kernel)⟩

/-- No wait is longer than thirty years: a longer interval is cut short,
and the next poll starts earlier. -/
theorem polls_early_of_long_interval :
    ∃ beats, ∃ s : WorkerSystem (MemoryPlatform × Unit),
      Running Host.prompt.platform { world := ({}, ()) } .empty
        (.ofMillis 1000000000000) beats s
      ∧ beats = [.polls 0, .ends 0 false, .polls 946080000000]
      ∧ ¬ beats.IsChain (Beat.Follows ((Span.ofMillis 1000000000000).max
        Worker.minInterval).ceilMillis) := by
  have hstart : Running Host.prompt.platform { world := ({}, ()) } .empty
      (.ofMillis 1000000000000) [] _ :=
    .start .new (fun c hc => by cases hc) rfl
  have hpolls := hstart.step (.run (.loop 0) rfl)
  have hends := hpolls.step (.run (.loop 0) rfl)
  obtain ⟨s, hs⟩ := hends.exists_polls rfl
  refine ⟨_, s, hs, rfl, fun hchain => ?_⟩
  have hwait : ((Span.ofMillis 1000000000000).max
      Worker.minInterval).ceilMillis = 1000000000000 := by decide +kernel
  rw [hwait] at hchain
  have hrest := (List.isChain_cons_cons.1
    (List.isChain_cons_cons.1 hchain).2).1
  exact absurd hrest.eq_add (by decide +kernel)

end WorkerSystem

end RemoteOps
