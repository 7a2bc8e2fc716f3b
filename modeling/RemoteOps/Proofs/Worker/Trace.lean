/-
The cycles of a worker, as the journal shows them.

A cycle begins with the answer to a poll and ends with the last write for
the operation that was handed out, if there was one.  The phase of the
loop tells which calls its present cycle has made.

* `Cycle`: the calls of a cycle that is over;
* `InCycle`: the calls of the present cycle of a loop;
* `Worker.Traced.stepLoop`, `Worker.Traced.stepCall`: a step goes on with
  the present cycle, or ends it and begins the next one.
-/
import RemoteOps.Proofs.Worker.Engaged

namespace RemoteOps

/-- A loop that is between two cycles, or has exited. -/
def LoopPhase.IsResting : LoopPhase → Prop
  | .spawned | .idle _ | .exited => True
  | .polling _ | .rejecting _ _ | .claiming _ _ _ _ | .executing _ _
  | .reporting _ _ => False

/-- The calls by which an operation was fetched and claimed. -/
def claimOf (o : Operation) : List Event :=
  [.poll (.ok (some o)), .status o.id .executing o.failureReason (.ok ())]

/-- The calls of a cycle that is over. -/
inductive Cycle (table : HandlerTable) : List Event → Prop where
  | pollFailed {e : Failure} : Cycle table [.poll (.error e)]
  | nothing : Cycle table [.poll (.ok none)]
  /-- What is not pending is left alone, if it can be claimed or cannot
  fail. -/
  | refused {o : Operation} (h : o.status ≠ .pending) :
    Cycle table [.poll (.ok (some o))]
  /-- What nobody takes has failed. -/
  | rejected {o : Operation} {reason : String} {r : Except Failure Unit}
    (hc : Matching.convert? o table.supportedKinds = none) :
    Cycle table [.poll (.ok (some o)), .status o.id .failed (some reason) r]
  /-- Without a claim there is no call. -/
  | unclaimed {o : Operation} {t : TypedOperation} {h : Handler}
    {e : Failure} (hd : Dispatched table o t h) :
    Cycle table [.poll (.ok (some o)),
      .status o.id .executing o.failureReason (.error e)]
  /-- What comes of a call is written. -/
  | served {o : Operation} {t : TypedOperation} {h : Handler}
    {out : Option Outcome} {r : Except Failure Unit}
    (hd : Dispatched table o t h) :
    Cycle table (claimOf o ++ [.execute h t,
      .status o.id (report out).status (report out).reason r])

/-- The calls of the present cycle of a loop in a phase. -/
def InCycle (table : HandlerTable) (calls : List HandlerCall)
    (cur : List Event) : LoopPhase → Prop
  | .spawned | .polling _ => cur = []
  | .idle _ => Cycle table cur
  | .exited => cur = [] ∨ Cycle table cur
  | .rejecting o' _ => ∃ o reason, cur = [.poll (.ok (some o))]
    ∧ Matching.convert? o table.supportedKinds = none
    ∧ o' = { o with status := .failed, failureReason := some reason }
  | .claiming o' t h _ => ∃ o, cur = [.poll (.ok (some o))]
    ∧ Dispatched table o t h ∧ o' = { o with status := .executing }
  | .executing o' n => ∃ o c, calls[n]? = some c
    ∧ Dispatched table o c.operation c.handler
    ∧ o' = { o with status := .executing }
    ∧ cur = claimOf o ++ if c.phase = .spawned then []
      else [.execute c.handler c.operation]
  | .reporting o' _ => ∃ o t h out, Dispatched table o t h
    ∧ cur = claimOf o ++ [.execute h t]
    ∧ o' = { o with
      status := (report out).status
      failureReason := (report out).reason }

/-- What a loop has done before its present cycle, and in it. -/
structure Worker.Traced {σ : Type} (before cur : List Event) (s : Site σ)
    (w : Worker) : Prop where
  calls : s.journal.calls = before ++ cur
  inCycle : InCycle w.table w.cores cur w.phase

/-! ### Cycles -/

section Cycles

variable {table : HandlerTable} {calls : List HandlerCall}
  {cur : List Event} {phase : LoopPhase}

/-- A handler is called at most once in a cycle. -/
lemma InCycle.executions_le (h : InCycle table calls cur phase) :
    cur.countP (fun e => e.executed?.isSome) ≤ 1 := by
  have hcycle : Cycle table cur →
      cur.countP (fun e => e.executed?.isSome) ≤ 1 := by
    intro hc
    cases hc <;> simp [claimOf, Event.executed?]
  cases phase with
  | spawned | polling =>
    rw [show cur = [] from h]
    exact Nat.zero_le _
  | idle => exact hcycle h
  | exited =>
    rcases h with rfl | h
    · exact Nat.zero_le _
    · exact hcycle h
  | rejecting =>
    obtain ⟨o, reason, rfl, -⟩ := h
    simp [Event.executed?]
  | claiming =>
    obtain ⟨o, rfl, -⟩ := h
    simp [Event.executed?]
  | executing o' n =>
    obtain ⟨o, c, -, -, -, rfl⟩ := h
    split <;> simp [claimOf, Event.executed?]
  | reporting =>
    obtain ⟨o, t, hd, out, -, rfl, -⟩ := h
    simp [claimOf, Event.executed?]

/-- A handler is called in a cycle only with a report at its end. -/
lemma Cycle.reported (hc : Cycle table cur) {h : Handler}
    {t : TypedOperation} (he : .execute h t ∈ cur) :
    ∃ status reason r, status.isTerminal = true
      ∧ .status t.id status reason r ∈ cur := by
  cases hc with
  | @served o t' h' out r hd =>
    have ht : t = t' := by
      simp [claimOf] at he
      exact he.2
    subst ht
    refine ⟨(report out).status, (report out).reason, r,
      report_isTerminal out, ?_⟩
    rw [hd.id_eq]
    simp
  | pollFailed | nothing | refused _ | rejected _ | unclaimed _ =>
    simp at he

/-- The calls of a cycle that goes on to the next one. -/
lemma inCycle_of_ends {w : Worker} {r : Except Failure Unit}
    (hcur : Cycle table cur) (h : w.Ends r phase) :
    InCycle table calls cur phase
      ∨ w.running = true ∧ (∃ due, phase = .polling due)
        ∧ (cur = [] ∨ Cycle table cur) := by
  cases r with
  | ok u =>
    rcases h with ⟨hrun, due, rfl⟩ | ⟨-, rfl⟩
    · exact .inr ⟨hrun, ⟨due, rfl⟩, .inr hcur⟩
    · exact .inl (.inr hcur)
  | error e =>
    obtain ⟨due, rfl⟩ := h
    exact .inl hcur

end Cycles

namespace Worker

variable {σ : Type} {p : Platform σ} {s s' : Site σ} {w w' : Worker}
  {before cur : List Event} {i : Nat}

lemma phase_eq (w : Worker) : w.phase = w.phases.getLast?.getD .exited := by
  rw [phase, phases, List.getLast?_map]

lemma phase_congr (h : w'.phases = w.phases) : w'.phase = w.phase := by
  rw [phase_eq, phase_eq, h]

lemma table_stepLoop (h : stepLoop p s w i = some (s', w')) :
    w'.table = w.table := by
  obtain ⟨l, -, -, ⟨-, -, rfl⟩ | ⟨-, es, w₁, seen, ph, hm, -, -, rfl⟩⟩ :=
    stepLoop_cases h
  · rfl
  · exact (loops_of_loopMove hm).2.2.2.2

lemma table_stepCall (h : stepCall p s w i = some (s', w')) :
    w'.table = w.table := by
  obtain ⟨c, es, ph, -, -, -, rfl⟩ := stepCall_cases h
  rfl

namespace Traced

/-- Callers change nothing. -/
lemma congr (h : Traced before cur s w)
    (hj : s'.journal.calls = s.journal.calls) (hw : w.SameTasks w') :
    Traced before cur s' w' where
  calls := hj.trans h.calls
  inCycle := by
    rw [hw.table, hw.cores, phase_congr hw.phases]
    exact h.inCycle

/-- The move of a loop goes on with the present cycle, or ends it and
begins the next one. -/
lemma inCycle_move {ph ph' : LoopPhase} {es : List Event} {w₁ : Worker}
    (hm : LoopMove w ph es w₁ ph') (h : InCycle w.table w.cores cur ph) :
    InCycle w.table w₁.cores (cur ++ es) ph'
      ∨ w.running = true ∧ (∃ due, ph' = .polling due)
        ∧ (cur ++ es = [] ∨ Cycle w.table (cur ++ es)) := by
  cases hm with
  | begin hr =>
    obtain rfl : cur = [] := h
    rcases hr with ⟨hrun, due, rfl⟩ | ⟨-, rfl⟩
    · exact .inr ⟨hrun, ⟨due, rfl⟩, .inl rfl⟩
    · exact .inl (.inl rfl)
  | wake hr =>
    rw [List.append_nil]
    rcases hr with ⟨hrun, due, rfl⟩ | ⟨-, rfl⟩
    · exact .inr ⟨hrun, ⟨due, rfl⟩, .inr h⟩
    · exact .inl (.inr h)
  | pollFailed =>
    obtain rfl : cur = [] := h
    exact .inl .pollFailed
  | nothing =>
    obtain rfl : cur = [] := h
    exact .inl .nothing
  | refuse ho =>
    obtain rfl : cur = [] := h
    exact .inl (.refused ho)
  | reject hc =>
    obtain rfl : cur = [] := h
    exact .inl ⟨_, _, rfl, hc, rfl⟩
  | accept hd =>
    obtain rfl : cur = [] := h
    exact .inl ⟨_, rfl, hd, rfl⟩
  | rejected he =>
    obtain ⟨o, reason, rfl, hc, rfl⟩ := h
    exact inCycle_of_ends (.rejected hc) he
  | claimed =>
    obtain ⟨o, rfl, hd, rfl⟩ := h
    refine .inl ⟨o, { handler := _, operation := _ }, ?_, hd, rfl, rfl⟩
    rw [cores_spawnCall, ← w.length_cores, List.getElem?_concat_length]
  | unclaimed =>
    obtain ⟨o, rfl, hd, rfl⟩ := h
    exact .inl (.unclaimed hd)
  | @conclude o' n r _ hr hc =>
    obtain ⟨o, c, hcore, hd, rfl, rfl⟩ := h
    obtain ⟨due, rfl⟩ := hc.2 rfl
    -- the call is over, so that it has begun
    have hover : c.phase ≠ .spawned := by
      obtain ⟨c₀, hc₀, hres⟩ := Option.bind_eq_some_iff.1 hr
      obtain rfl : c₀.core = c :=
        Option.some.inj ((cores_getElem? hc₀).symm.trans hcore)
      intro hsp
      rw [HandlerCall.result?, show c₀.phase = .spawned from hsp] at hres
      cases hres
    refine .inl ⟨o, c.operation, c.handler, r, hd, ?_, rfl⟩
    rw [if_neg hover, List.append_nil]
  | @reported _ _ _ r he =>
    obtain ⟨o, t, hd, out, hdis, rfl, rfl⟩ := h
    have hcycle : Cycle w.table (claimOf o ++ [.execute hd t]
        ++ [.status o.id (report out).status (report out).reason r]) := by
      rw [List.append_assoc]
      exact .served hdis
    exact inCycle_of_ends hcycle he

/-- The step of a loop goes on with the present cycle, or ends it and
begins the next one, or cuts the loop off. -/
theorem stepLoop (h : Traced before cur s w) (he : EarlierExited w.phases)
    (hs : stepLoop p s w i = some (s', w')) :
    (∃ es, Traced before (cur ++ es) s' w')
      ∨ (w.running = true ∧ (∃ due, w'.phase = .polling due)
        ∧ ∃ es, (cur ++ es = [] ∨ Cycle w.table (cur ++ es))
          ∧ Traced (before ++ (cur ++ es)) [] s' w')
      ∨ (∃ l, w.loops.getLast? = some l ∧ l.aborted = true)
        ∧ w'.phase = .exited ∧ Traced (before ++ cur) [] s' w' := by
  obtain ⟨l, hl, hne, hcases⟩ := stepLoop_cases hs
  obtain ⟨hlast, hlen⟩ := getLast?_of_live he hl hne
  have hin := h.inCycle
  rw [phase_of_getLast? hlast] at hin
  rcases hcases with ⟨ha, rfl, rfl⟩ | ⟨-, es, w₁, seen, ph, hm, hg, -, rfl⟩
  · have hex : (w.setLoop i l .exited).phase = .exited :=
      phase_of_getLast? (getLast?_setLoop hlen l .exited)
    refine .inr (.inr ⟨⟨l, hlast, ha⟩, hex, ?_, ?_⟩)
    · rw [h.calls, List.append_nil]
    · rw [hex]
      exact .inl rfl
  · obtain ⟨hloops, -, -, -, htable⟩ := loops_of_loopMove hm
    have hph : (w₁.setLoop i { l with seen } ph).phase = ph :=
      phase_of_getLast? (getLast?_setLoop (hloops ▸ hlen) _ ph)
    have hcalls : s'.journal.calls = before ++ (cur ++ es) := by
      rw [hg.calls, h.calls, List.append_assoc]
    have htab : (w₁.setLoop i { l with seen } ph).table = w.table := htable
    rcases inCycle_move hm hin with hin' | ⟨hrun, ⟨due, rfl⟩, hcycle⟩
    · refine .inl ⟨es, hcalls, ?_⟩
      rw [hph, htab]
      exact hin'
    · refine .inr (.inl ⟨hrun, ⟨due, hph⟩, es, hcycle, ?_, ?_⟩)
      · rw [hcalls, List.append_nil]
      · rw [hph]
        rfl

/-- The step of a call belongs to the present cycle of the loop that waits
for it; it may still come when the loop was cut off. -/
theorem stepCall {callers : List Halt} (h : Traced before cur s w)
    (he : w.Engaged callers) (hs : stepCall p s w i = some (s', w')) :
    (∃ es, Traced before (cur ++ es) s' w')
      ∨ w.phase = .exited
        ∧ ∃ es, Traced (before ++ (cur ++ es)) [] s' w' := by
  have hphase := phase_congr (stepCall_phases hs).1
  obtain ⟨c, es, ph, hc, hm, hg, rfl⟩ := stepCall_cases hs
  have hcalls : s'.journal.calls = before ++ (cur ++ es) := by
    rw [hg.calls, h.calls, List.append_assoc]
  by_cases hex : w.phase = .exited
  · refine .inr ⟨hex, es, ?_, ?_⟩
    · rw [hcalls, List.append_nil]
    · rw [hphase, hex]
      exact .inl rfl
  · obtain ⟨o', hexec⟩ : ∃ o', w.phase = .executing o' i := by
      rcases he.open_call i c hc hm.isOver with hf | ha
      · exact (he.in_flight i hf).resolve_right fun h => hex h.1
      · exact absurd (phase_of_forall_exited (he.one.awaited _ ha)) hex
    obtain ⟨-, c₀, hc₀, ha⟩ := he.executing o' i hexec
    obtain rfl : c = c₀ := Option.some.inj (hc.symm.trans hc₀)
    have hin := h.inCycle
    rw [hexec] at hin
    obtain ⟨o, c₁, hc₁, hd, rfl, hcur⟩ := hin
    obtain rfl : c.core = c₁ :=
      Option.some.inj ((cores_getElem? hc).symm.trans hc₁)
    have hlt : i < w.cores.length := (List.getElem?_eq_some_iff.1 hc₁).1
    refine .inl ⟨es, hcalls, ?_⟩
    rw [hphase, hexec, cores_setCall]
    refine ⟨o, { c.core with phase := ph }, List.getElem?_set_self hlt, hd,
      rfl, ?_⟩
    rw [hcur]
    cases hm with
    | cut hab => rw [ha] at hab; cases hab
    | begin _ hsp =>
      have hsp' : c.core.phase = .spawned := hsp
      rw [if_pos hsp', if_neg CallPhase.noConfusion, List.append_nil]
      rfl
    | finish _ hrun =>
      have hrun' : c.core.phase ≠ .spawned := by
        show c.phase ≠ .spawned
        rw [hrun]
        exact CallPhase.noConfusion
      rw [if_neg hrun', if_neg CallPhase.noConfusion, List.append_nil]

end Traced

end Worker

end RemoteOps
