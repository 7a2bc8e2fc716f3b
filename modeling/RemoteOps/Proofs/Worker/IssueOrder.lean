/-
A worker on a platform in memory, with one caller, who waits for each of
its calls to return.

However often it is started, stopped and aborted, and whatever fails, it
makes one call of a handler at a time and takes up the operations in the
order of their issue.

* `InIssueOrder`: nothing is recorded for an operation as long as one that
  was issued before it waits;
* `MemoryPlatform.isTurnOf_of_poll`: a poll hands out an operation whose
  turn it is;
* `InTurn.stepLoop`: a step of the loop keeps to the order;
* `WorkerSystem.Attended`: the runs with one caller;
* `WorkerSystem.inTurn_of_attended`: what they come to.
-/
import RemoteOps.Proofs.Worker.Deeds
import RemoteOps.Proofs.Worker.GracefulStop
import RemoteOps.Proofs.Worker.WriteProtocol

namespace RemoteOps

/-! ### The order of issue -/

/-- One operation was issued before another one. -/
def IssuedBefore (ops : List Operation) (o o' : Operation) : Prop :=
  ∃ i k : Nat, i < k ∧ ops[i]? = some o ∧ ops[k]? = some o'

/-- The turn of an identifier has come: something was written for all
operations that were issued as pending before its own. -/
structure IsTurnOf (ops : List Operation) (ws : List StatusWrite)
    (id : String) : Prop where
  issued : ∃ o ∈ ops, o.id = id
  written : ∀ o o', IssuedBefore ops o o' → o'.id = id →
    o.status = .pending → ∃ w ∈ ws, w.id = o.id

/-- Whatever was written, it was the turn of its operation. -/
def InIssueOrder (ops : List Operation) (ws : List StatusWrite) : Prop :=
  ∀ l₁ w l₂, ws = l₁ ++ w :: l₂ → IsTurnOf ops l₁ w.id

section IssueOrder

variable {ops : List Operation} {ws ws' : List StatusWrite} {id : String}
  {o : Operation}

lemma issuedBefore_append {a b : Operation}
    (h : IssuedBefore (ops ++ [o]) a b) : IssuedBefore ops a b ∨ b = o := by
  obtain ⟨i, k, hik, ha, hb⟩ := h
  obtain ⟨hk, -⟩ := List.getElem?_eq_some_iff.1 hb
  rw [List.length_append, List.length_singleton] at hk
  rcases Nat.lt_succ_iff_lt_or_eq.1 hk with hlt | rfl
  · rw [List.getElem?_append_left hlt] at hb
    rw [List.getElem?_append_left (hik.trans hlt)] at ha
    exact .inl ⟨i, k, hik, ha, hb⟩
  · rw [List.getElem?_concat_length, Option.some.injEq] at hb
    exact .inr hb.symm

namespace IsTurnOf

/-- More writes change nothing. -/
lemma append (h : IsTurnOf ops ws id) (ws' : List StatusWrite) :
    IsTurnOf ops (ws ++ ws') id where
  issued := h.issued
  written a b hab hb ha := by
    obtain ⟨w, hw, hid⟩ := h.written a b hab hb ha
    exact ⟨w, List.mem_append_left _ hw, hid⟩

/-- Nor does an operation that is issued later. -/
lemma push (h : IsTurnOf ops ws id) (hnew : ∀ o' ∈ ops, o'.id ≠ o.id) :
    IsTurnOf (ops ++ [o]) ws id where
  issued := by
    obtain ⟨o', ho', hid⟩ := h.issued
    exact ⟨o', List.mem_append_left _ ho', hid⟩
  written a b hab hb ha := by
    rcases issuedBefore_append hab with hab | rfl
    · exact h.written a b hab hb ha
    · obtain ⟨o', ho', hid⟩ := h.issued
      exact absurd (hid.trans hb.symm) (hnew o' ho')

end IsTurnOf

lemma inIssueOrder_nil (ops : List Operation) : InIssueOrder ops [] :=
  fun l₁ w l₂ h => by simp at h

/-- Something is written for an operation whose turn it is. -/
lemma InIssueOrder.write (h : InIssueOrder ops ws) {w : StatusWrite}
    (hw : IsTurnOf ops ws w.id) : InIssueOrder ops (ws ++ [w]) := by
  intro l₁ w' l₂ heq
  rcases concat_eq_append_cons heq with ⟨-, rfl, rfl⟩ | ⟨l₃, -, rfl⟩
  · exact hw
  · exact h l₁ w' l₃ rfl

lemma InIssueOrder.push (h : InIssueOrder ops ws)
    (hnew : ∀ o' ∈ ops, o'.id ≠ o.id) : InIssueOrder (ops ++ [o]) ws :=
  fun l₁ w l₂ heq => (h l₁ w l₂ heq).push hnew

/-- The answer to a write for an operation whose turn it is. -/
lemma InIssueOrder.answered (h : InIssueOrder ops ws)
    (ht : IsTurnOf ops ws id) (status : Status) (reason : Option String)
    (r : Except Failure Unit) : InIssueOrder ops
      (ws ++ [Event.status id status reason r].filterMap Event.write?) := by
  cases r with
  | ok u => exact h.write ht
  | error e =>
    rw [show [Event.status id status reason (.error e)].filterMap
      Event.write? = [] from rfl, List.append_nil]
    exact h

end IssueOrder

/-! ### Polls -/

variable {τ : Type} {H : Host τ} {m : MemoryPlatform}
  {table : HandlerTable} {interval : Span} {base : List StatusWrite}
  {ops : List Operation} {j : Journal}

/-- A poll hands out the first operation that is pending. -/
lemma MemoryPlatform.exists_of_poll {o : Operation}
    (h : m.poll.1 = .ok (some o)) : ∃ k : Nat, m.operations[k]? = some o
      ∧ ∀ i o', i < k → m.operations[i]? = some o' →
        o'.status ≠ .pending := by
  unfold poll at h
  dsimp only at h
  split at h
  · cases h
  · obtain ⟨-, k, hk, hget, hfirst⟩ :=
      List.find?_eq_some_iff_getElem.1 (Except.ok.inj h)
    refine ⟨k, List.getElem?_eq_some_iff.2 ⟨hk, hget⟩, fun i o' hi ho' => ?_⟩
    obtain ⟨hlt, rfl⟩ := List.getElem?_eq_some_iff.1 ho'
    simpa using hfirst i hi

/-- An operation that was issued as pending and is not pending any more was
written. -/
lemma Operation.exists_write_of_after {o : Operation}
    {ws : List StatusWrite} (hp : o.status = .pending)
    (h : (o.after ws).status ≠ .pending) : ∃ w ∈ ws, w.id = o.id := by
  have hne : StatusWrite.statuses o.id ws ≠ [] := fun hnil => by
    rw [Operation.after_of_statuses_eq_nil hnil] at h
    exact h hp
  obtain ⟨st, hst⟩ := List.exists_mem_of_ne_nil _ hne
  obtain ⟨w, hw, -⟩ := List.mem_map.1 hst
  obtain ⟨hmem, hid⟩ := List.mem_filter.1 hw
  exact ⟨w, hmem, of_decide_eq_true hid⟩

/-- A poll hands out an operation whose turn it is. -/
lemma Ledger.isTurnOf_of_poll {phases : List LoopPhase}
    {calls : List HandlerCall}
    (h : Ledger table base ops m j phases calls) {o : Operation}
    (hr : m.poll.1 = .ok (some o)) : IsTurnOf ops j.written o.id := by
  obtain ⟨hmem, hp⟩ := MemoryPlatform.mem_of_poll hr
  obtain ⟨k, hk, hfirst⟩ := MemoryPlatform.exists_of_poll hr
  have hget : ∀ (i : Nat) a, ops[i]? = some a →
      m.operations[i]? = some (a.after j.written) := fun i a ha => by
    rw [h.operations, List.getElem?_map, ha, Option.map_some]
  refine ⟨⟨o, (h.of_pending hmem hp).1, rfl⟩, fun a b hab hb ha => ?_⟩
  obtain ⟨i, n, hin, hi, hn⟩ := hab
  -- identifiers are distinct, so it is the one that was found
  have hids : ((m.operations.map (·.id))[n]?)
      = (m.operations.map (·.id))[k]? := by
    rw [List.getElem?_map, List.getElem?_map, hget n b hn, hk,
      Option.map_some, Option.map_some, Operation.id_after, hb]
  obtain ⟨hlt, -⟩ := List.getElem?_eq_some_iff.1 (hget n b hn)
  obtain rfl : n = k := (List.getElem?_inj
    (by rwa [List.length_map]) h.nodup_operations).1 hids
  exact Operation.exists_write_of_after ha (hfirst i _ hin (hget i a hi))

/-! ### Steps of the loop -/

/-- The operation that a loop has in hand. -/
def LoopPhase.inHand? : LoopPhase → Option Operation
  | .rejecting o _ | .claiming o _ _ _ | .executing o _ | .reporting o _ =>
    some o
  | .spawned | .polling _ | .idle _ | .exited => none

lemma LoopPhase.inHand?_of_isFree {ph : LoopPhase} (h : ph.IsFree) :
    ph.inHand? = none := by
  cases ph with
  | rejecting | claiming | executing | reporting => exact h.elim
  | spawned | polling | idle | exited => rfl

/-- Operations are taken up in the order of their issue: it is the turn of
the one in hand. -/
structure InTurn (ops : List Operation) (ws : List StatusWrite)
    (ph : LoopPhase) : Prop where
  order : InIssueOrder ops ws
  turn : ∀ o, ph.inHand? = some o → IsTurnOf ops ws o.id

namespace InTurn

variable {ws : List StatusWrite} {ph ph' : LoopPhase}

lemma of_isFree (h : InIssueOrder ops ws) (hf : ph.IsFree) :
    InTurn ops ws ph where
  order := h
  turn o ho := by
    rw [LoopPhase.inHand?_of_isFree hf] at ho
    cases ho

lemma congr (h : InTurn ops ws ph) {ws' : List StatusWrite}
    (hw : ws' = ws) (hp : ph' = ph) : InTurn ops ws' ph' :=
  hw ▸ hp ▸ h

lemma push (h : InTurn ops ws ph) {o : Operation}
    (hnew : ∀ o' ∈ ops, o'.id ≠ o.id) : InTurn (ops ++ [o]) ws ph :=
  ⟨h.order.push hnew, fun o' ho' => (h.turn o' ho').push hnew⟩

/-- A move of the loop, which takes up an operation only if it is its
turn. -/
lemma loopMove (h : InTurn ops ws ph) {w w₁ : Worker} {es cur : List Event}
    {calls : List HandlerCall} (hin : InCycle w.table calls cur ph)
    (hm : LoopMove w ph es w₁ ph')
    (hpoll : ∀ o, es = [.poll (.ok (some o))] → IsTurnOf ops ws o.id) :
    InTurn ops (ws ++ es.filterMap Event.write?) ph' := by
  have hsame : InIssueOrder ops (ws ++ []) :=
    (List.append_nil ws).symm ▸ h.order
  cases hm with
  | begin hr | wake hr => exact of_isFree hsame hr.isFree
  | pollFailed | nothing | refuse | unclaimed => exact of_isFree hsame trivial
  | reject | accept =>
    refine ⟨hsame, fun o' ho' => ?_⟩
    obtain rfl := Option.some.inj ho'
    exact (hpoll _ rfl).append []
  | rejected hr | reported hr =>
    exact of_isFree (h.order.answered (h.turn _ rfl) _ _ _) hr.isFree
  | @claimed _ o =>
    refine ⟨h.order.answered (h.turn _ rfl) _ _ _, fun o' ho' => ?_⟩
    obtain rfl := Option.some.inj ho'
    exact (h.turn o rfl).append _
  | @conclude o n r _ _ hc =>
    obtain ⟨o₀, c, -, -, hex, -⟩ := hin
    obtain ⟨due, rfl⟩ := hc.2 (by rw [hex])
    refine ⟨hsame, fun o' ho' => ?_⟩
    obtain rfl := Option.some.inj ho'
    exact (h.turn o rfl).append []

/-- A step of the loop keeps to the order. -/
theorem stepLoop {s s' : Site (MemoryPlatform × τ)} {w w' : Worker}
    {i : Nat} {calls : List HandlerCall} {cur : List Event}
    (h : InTurn ops s.journal.written w.phase)
    (hl : Ledger table base ops s.world.1 s.journal w.phases w.cores)
    (hin : InCycle w.table calls cur w.phase)
    (hs : Worker.stepLoop H.platform s w i = some (s', w')) :
    InTurn ops s'.journal.written w'.phase := by
  obtain ⟨l, hget, hne, hcases⟩ := Worker.stepLoop_cases hs
  obtain ⟨hlast, hlen⟩ := Worker.getLast?_of_live hl.single hget hne
  rw [Worker.phase_of_getLast? hlast] at h hin
  rcases hcases with ⟨-, rfl, rfl⟩ | ⟨-, es, w₁, seen, ph, hm, hg, -, rfl⟩
  · rw [Worker.phase_of_getLast? (Worker.getLast?_setLoop hlen l .exited)]
    exact of_isFree h.order trivial
  · have hloops := (Worker.loops_of_loopMove hm).1
    have hwritten : s'.journal.written
        = s.journal.written ++ es.filterMap Event.write? := by
      rw [Journal.written_eq, hg.calls, List.filterMap_append,
        Journal.written_eq]
    rw [Worker.phase_of_getLast?
      (Worker.getLast?_setLoop (hloops ▸ hlen) { l with seen } ph), hwritten]
    refine h.loopMove hin hm fun o hes => hl.isTurnOf_of_poll ?_
    have ha := Worker.answers_stepLoop hs (hes ▸ hg.calls)
    exact congrArg Prod.fst ha.of_poll

end InTurn

/-- The step of a call records nothing. -/
lemma CallMove.written {c : HandlerCall} {es : List Event} {ph : CallPhase}
    {s s' : Site (MemoryPlatform × τ)} (h : CallMove c es ph)
    (hg : s.Gains es s') : s'.journal.written = s.journal.written := by
  have hnone : es.filterMap Event.write? = [] := by cases h <;> rfl
  rw [Journal.written_eq, hg.calls, List.filterMap_append, hnone,
    List.append_nil, Journal.written_eq]

/-! ### One caller -/

namespace WorkerSystem

variable {s s' : WorkerSystem (MemoryPlatform × τ)}

/-- The states that a new worker comes to on a platform in memory, with
the operations that were issued until then.  It has one caller, who waits
until a call has returned before making the next one, and the clock moves
on in any way. -/
inductive Attended (H : Host τ) (m : MemoryPlatform)
    (table : HandlerTable) (interval : Span) :
    List Operation → WorkerSystem (MemoryPlatform × τ) → Prop where
  | new (now : Nat) (x : τ) :
    Attended H m table interval m.operations
      { site := { now, world := (m, x) }
        worker := .new table interval }
  | step {ops : List Operation} {s s' : WorkerSystem (MemoryPlatform × τ)}
    (h : Attended H m table interval ops s)
    (hs : (machine H.platform).Step s s') :
    Attended H m table interval ops s'
  | clock {ops : List Operation} {s : WorkerSystem (MemoryPlatform × τ)}
    (h : Attended H m table interval ops s) (now : Nat) :
    Attended H m table interval ops (s.setNow now)
  | start {ops : List Operation} {s s' : WorkerSystem (MemoryPlatform × τ)}
    (h : Attended H m table interval ops s) (hw : s.NobodyWaits)
    (hs : s.start? = some s') : Attended H m table interval ops s'
  | stop {ops : List Operation} {s : WorkerSystem (MemoryPlatform × τ)}
    (h : Attended H m table interval ops s) (hw : s.NobodyWaits) :
    Attended H m table interval ops s.stop
  | abort {ops : List Operation} {s : WorkerSystem (MemoryPlatform × τ)}
    (h : Attended H m table interval ops s) (hw : s.NobodyWaits) :
    Attended H m table interval ops s.abort
  /-- Others do with the platform what they want, so that polls and writes
  fail or do not, except that they leave operations and record alone. -/
  | outside {ops : List Operation}
    {s : WorkerSystem (MemoryPlatform × τ)} {m' : MemoryPlatform} (x : τ)
    (h : Attended H m table interval ops s)
    (ho : m'.operations = s.site.world.1.operations)
    (hw : m'.writes = s.site.world.1.writes) :
    Attended H m table interval ops (s.withWorld (m', x))
  /-- Others issue an operation under a new identifier. -/
  | push {ops : List Operation} {s : WorkerSystem (MemoryPlatform × τ)}
    {o : Operation} (h : Attended H m table interval ops s)
    (hnew : ∀ o' ∈ ops, o'.id ≠ o.id) :
    Attended H m table interval (ops ++ [o])
      (s.withWorld (s.site.world.1.push o, s.site.world.2))

/-- A run of the tasks goes on with a run. -/
lemma Attended.runs (h : Attended H m table interval ops s)
    (hr : (machine H.platform).Runs s s') :
    Attended H m table interval ops s' := by
  induction hr with
  | refl => exact h
  | tail _ hs ih => exact ih.step hs

lemma written_noteReturn (site : Site (MemoryPlatform × τ)) (i : Nat)
    (h : Halt) :
    (noteReturn site i h).journal.written = site.journal.written := by
  rw [Journal.written_eq, calls_noteReturn, Journal.written_eq]

/-- The caller holds on to the worker. -/
lemma Attended.held (h : Attended H m table interval ops s) :
    ∃ site, Held H.platform site table interval s := by
  induction h with
  | new => exact ⟨_, .new⟩
  | step _ hs ih =>
    obtain ⟨site, ih⟩ := ih
    exact ⟨site, ih.step hs⟩
  | clock _ now ih =>
    obtain ⟨site, ih⟩ := ih
    exact ⟨site, ih.move (.clock _ now) ih.released⟩
  | start _ hw hs ih =>
    obtain ⟨site, ih⟩ := ih
    refine ⟨site, ih.move (.start hw hs) ?_⟩
    obtain ⟨w, -, rfl⟩ := Option.map_eq_some_iff.1 hs
    exact ih.released
  | stop _ _ ih =>
    obtain ⟨site, ih⟩ := ih
    exact ⟨site, ih.move (.stop _) ih.released⟩
  | abort _ _ ih =>
    obtain ⟨site, ih⟩ := ih
    exact ⟨site, ih.move (.abort _) ih.released⟩
  | outside x _ _ _ ih =>
    obtain ⟨site, ih⟩ := ih
    exact ⟨site, ih.outside _⟩
  | push _ _ ih =>
    obtain ⟨site, ih⟩ := ih
    exact ⟨site, ih.outside _⟩

lemma Attended.isTraced (h : Attended H m table interval ops s) :
    ∃ before cur, IsTraced table before cur s := by
  obtain ⟨site, hheld⟩ := h.held
  exact hheld.isTraced

/-- A worker that may be started has no loop that is alive. -/
lemma isResting_of_start (h : s.HasOneLoop) (hs : s.start? = some s') :
    s.IsResting := by
  obtain ⟨w, hw, -⟩ := Option.map_eq_some_iff.1 hs
  have hstate := (Worker.start?_eq_some hw).1
  intro l hl
  by_contra hno
  have hne : l.phase ≠ .exited := by simpa [PollLoop.isOver] using hno
  exact hstate (h.started ⟨l.phase, List.mem_map_of_mem hl, hne⟩)

/-- There is one loop at a time, so that the worker keeps its ledger. -/
lemma Attended.reaches (h : Attended H m table interval ops s) :
    Reaches H m table interval ops s := by
  induction h with
  | new now x => exact .new now x
  | step _ hs ih => exact ih.move (.step hs)
  | clock _ now ih => exact ih.move (.clock _ now)
  | start h _ hs ih =>
    obtain ⟨before, cur, ht⟩ := h.isTraced
    exact ih.move (.start (isResting_of_start ht.engaged.one hs) hs)
  | stop _ _ ih => exact ih.move (.stop _)
  | abort _ _ ih => exact ih.move (.abort _)
  | outside x _ ho hw ih => exact ih.outside x ho hw
  | push _ hnew ih => exact ih.push hnew

/-- Starts the worker, unless it counts as started. -/
def startIfStopped {σ : Type} (s : WorkerSystem σ) : WorkerSystem σ :=
  s.start?.getD s

lemma Attended.startIfStopped (h : Attended H m table interval ops s)
    (hw : s.NobodyWaits) :
    Attended H m table interval ops s.startIfStopped := by
  rw [WorkerSystem.startIfStopped]
  cases hs : s.start? with
  | none => exact h
  | some s' => exact h.start hw hs

/-! ### One call at a time -/

/-- How many calls of a worker have not returned. -/
def waiting (s : WorkerSystem (MemoryPlatform × τ)) : Nat :=
  s.callers.countP (· ≠ .returned)

lemma waiting_eq_zero (h : s.NobodyWaits) : s.waiting = 0 :=
  List.countP_eq_zero.2 fun c hc => by simp [h c hc]

/-- Who waits may go on, and nobody else begins to wait. -/
lemma waiting_step (hs : (machine H.platform).Step s s') :
    s'.waiting ≤ s.waiting := by
  cases hs with
  | wait => exact Nat.le_refl _
  | run t ht =>
    cases step_cases ht with
    | loop | call | destroy => exact Nat.le_refl _
    | @caller i c c' w hc hr =>
      obtain ⟨hi, hget⟩ := List.getElem?_eq_some_iff.1 hc
      have hwaits : c ≠ .returned := by
        rintro rfl
        cases hr
      have hpos : 0 < s.waiting :=
        List.countP_pos_iff.2 ⟨c, List.mem_of_getElem? hc, by simpa⟩
      show (s.callers.set i c').countP (· ≠ .returned) ≤ s.waiting
      rw [List.countP_set hi, hget, if_pos (by simpa using hwaits)]
      change s.waiting - 1 + _ ≤ s.waiting
      split <;> omega

lemma Attended.waiting_le (h : Attended H m table interval ops s) :
    s.waiting ≤ 1 := by
  have hjoin : ∀ (s : WorkerSystem (MemoryPlatform × τ)) (c : Halt),
      s.NobodyWaits →
      (s.callers ++ [c]).countP (· ≠ Halt.returned) ≤ 1 := fun s c hw => by
    have hzero : s.callers.countP (· ≠ Halt.returned) = 0 :=
      waiting_eq_zero hw
    rw [List.countP_append, hzero, Nat.zero_add]
    exact List.countP_le_length
  induction h with
  | new => exact Nat.zero_le 1
  | step _ hs ih => exact (waiting_step hs).trans ih
  | start _ _ hs ih =>
    obtain ⟨w, -, rfl⟩ := Option.map_eq_some_iff.1 hs
    exact ih
  | stop _ hw | abort _ hw => exact hjoin _ _ hw
  | clock _ _ ih | outside _ _ _ _ ih | push _ _ ih => exact ih

/-- All callers who wait are the same one. -/
lemma eq_of_waiting_le (h : s.waiting ≤ 1) :
    ∀ a ∈ s.callers, ∀ b ∈ s.callers, a ≠ .returned → b ≠ .returned →
      a = b := by
  intro a ha b hb hane hbne
  rw [waiting, List.countP_eq_length_filter] at h
  have hmem : ∀ c ∈ s.callers, c ≠ .returned →
      c ∈ s.callers.filter (· ≠ .returned) := fun c hc hne =>
    List.mem_filter.2 ⟨hc, by simpa using hne⟩
  obtain ⟨c, hc⟩ := List.length_eq_one_iff.1
    (Nat.le_antisymm h (List.length_pos_of_mem (hmem a ha hane)))
  have ha' := hmem a ha hane
  have hb' := hmem b hb hbne
  rw [hc, List.mem_singleton] at ha' hb'
  exact ha'.trans hb'.symm

/-! ### In turn -/

/-- Whatever happens, operations are taken up in the order of issue. -/
lemma Attended.inTurn (hd : (m.operations.map (·.id)).Nodup)
    (h : Attended H m table interval ops s) :
    InTurn ops s.site.journal.written s.worker.phase := by
  induction h with
  | new => exact .of_isFree (inIssueOrder_nil _) trivial
  | @step ops s s' h hs ih =>
    obtain ⟨before, cur, ht⟩ := h.isTraced
    cases hs with
    | wait => exact ih
    | run t hrun =>
      cases step_cases hrun with
      | loop hstep =>
        exact ih.stepLoop (tracked_of_reaches hd h.reaches).2
          ht.traced.inCycle hstep
      | call hstep =>
        have hph := Worker.phase_congr (Worker.stepCall_phases hstep).1
        obtain ⟨c, es, ph, -, hm, hg, rfl⟩ := Worker.stepCall_cases hstep
        exact ih.congr (hm.written hg) hph
      | caller _ hr =>
        exact ih.congr (written_noteReturn _ _ _)
          (Worker.phase_congr (Worker.SameTasks.resume hr).phases)
      | destroy hr =>
        obtain ⟨site, hheld⟩ := h.held
        cases hheld.released.symm.trans hr
  | start _ _ hs ih =>
    obtain ⟨w, hw, rfl⟩ := Option.map_eq_some_iff.1 hs
    have hph : w.phase = .spawned := by
      rw [Worker.phase_eq, (Worker.tasks_start? hw).2.1, List.getLast?_concat]
      rfl
    exact .of_isFree ih.order (hph ▸ trivial)
  | stop _ _ ih =>
    exact ih.congr (written_noteReturn _ _ _)
      (Worker.phase_congr (Worker.SameTasks.beginStop _).phases)
  | abort _ _ ih =>
    exact ih.congr (written_noteReturn _ _ _)
      (Worker.phase_congr (Worker.SameTasks.beginAbort _).phases)
  | clock _ _ ih | outside _ _ _ _ ih => exact ih
  | push _ hnew ih => exact ih.push hnew

/-- One thing after the other. -/
structure Orderly (base : List StatusWrite) (ops : List Operation)
    (s : WorkerSystem (MemoryPlatform × τ)) : Prop where
  /-- Calls of handlers that are not over are one and the same. -/
  unique : ∀ (i k : Nat) c c', s.worker.calls[i]? = some c →
    s.worker.calls[k]? = some c' → c.isOver = false → c'.isOver = false →
    i = k
  /-- The record of the platform is that of the journal. -/
  writes : s.site.world.1.writes = base ++ s.site.journal.written
  /-- Before anything is recorded for an operation, something has been
  recorded for every one that was issued as pending before it. -/
  order : ∀ o o', IssuedBefore ops o o' → o.status = .pending →
    ∀ l₁ w l₂, s.site.journal.written = l₁ ++ w :: l₂ → w.id = o'.id →
      ∃ w' ∈ l₁, w'.id = o.id

/-- A worker with one caller who waits makes one call at a time and takes
up operations in the order of their issue, whatever fails and however
often it is restarted. -/
theorem orderly_of_attended (hd : (m.operations.map (·.id)).Nodup)
    (h : Attended H m table interval ops s) :
    Orderly m.writes ops s where
  unique i k c c' hi hk ho ho' := by
    obtain ⟨before, cur, ht⟩ := h.isTraced
    exact ht.engaged.open_unique (eq_of_waiting_le h.waiting_le) hi ho hk ho'
  writes := (tracked_of_reaches hd h.reaches).2.writes
  order o o' hoo' hp l₁ w l₂ hw hid :=
    ((h.inTurn hd).order l₁ w l₂ hw).written o o' hoo' hid.symm hp

/-- A restart that is pending. -/
def pendingRestart (id : String) : Operation :=
  (Operation.new id).withFragment Kind.restart (.object [])

/-- Two operations are pending, and the first write will fail. -/
def failingOnce : MemoryPlatform where
  operations := [pendingRestart "1", pendingRestart "2"]
  failingWrites := 1

/-- A worker that was started, came upon the failure, and was stopped. -/
def interruptedWorker : WorkerSystem (MemoryPlatform × Unit) :=
  let settle := (machine Host.prompt.platform).settle 60
  let s : WorkerSystem (MemoryPlatform × Unit) := {
    site := { world := (failingOnce, ()) }
    worker := .new (.ofRegistrations [⟨restarter, restarter.kinds⟩])
      (.ofMillis 100) }
  settle (settle s.startIfStopped).stop

/-- It is started again after a third operation was issued. -/
def restartedWorker : WorkerSystem (MemoryPlatform × Unit) :=
  let s := interruptedWorker.withWorld
    (interruptedWorker.site.world.1.push (pendingRestart "3"), ())
  (machine Host.prompt.platform).settle 60 s.startIfStopped

/-- Each of the three is claimed and reported before the next one. -/
theorem orderly_restartedWorker :
    (failingOnce.operations.map (·.id)).Nodup
      ∧ Attended Host.prompt failingOnce
        (.ofRegistrations [⟨restarter, restarter.kinds⟩]) (.ofMillis 100)
        (failingOnce.operations ++ [pendingRestart "3"]) restartedWorker
      ∧ Orderly [] (failingOnce.operations ++ [pendingRestart "3"])
        restartedWorker
      ∧ restartedWorker.site.journal.written.map (·.id)
        = ["1", "1", "2", "2", "3", "3"] := by
  have hd : (failingOnce.operations.map (·.id)).Nodup := by decide
  have h₀ : Attended Host.prompt failingOnce
      (.ofRegistrations [⟨restarter, restarter.kinds⟩]) (.ofMillis 100)
      failingOnce.operations interruptedWorker := by
    refine Attended.runs (.stop (.runs (.startIfStopped (.new 0 ()) ?_)
      (Machine.settle_runs 60 _)) ?_) (Machine.settle_runs 60 _)
    · exact fun c hc => by cases hc
    · unfold NobodyWaits
      decide +kernel
  have h : Attended Host.prompt failingOnce
      (.ofRegistrations [⟨restarter, restarter.kinds⟩]) (.ofMillis 100)
      (failingOnce.operations ++ [pendingRestart "3"]) restartedWorker := by
    refine Attended.runs (.startIfStopped (h₀.push ?_) ?_)
      (Machine.settle_runs 60 _)
    · decide
    · unfold NobodyWaits
      decide +kernel
  exact ⟨hd, h, orderly_of_attended hd h, by decide +kernel⟩

end WorkerSystem

end RemoteOps
