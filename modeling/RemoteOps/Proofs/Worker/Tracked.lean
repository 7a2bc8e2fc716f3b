/-
Every step of a worker on a platform in memory keeps its ledger.

* `Tracked.stepLoop`, `Tracked.stepCall`: the steps of loops and of
  calls;
* `Tracked.move`: all moves, if a loop is only started when no other one
  is alive.
-/
import RemoteOps.Proofs.Platform.Hosted
import RemoteOps.Proofs.Worker.Ledger

namespace RemoteOps

variable {τ : Type} {H : Host τ} {table : HandlerTable}
  {base : List StatusWrite} {ops : List Operation}
  {s s' : Site (MemoryPlatform × τ)} {w w' : Worker}

/-! ### The answers of the platform -/

/-- A write that succeeds is entered as such. -/
lemma Site.journal_writeStatus {o : Operation}
    (hr : (s.writeStatus H.platform o).1 = .ok ()) :
    (s.writeStatus H.platform o).2.journal
      = ⟨s.now, .status o.id o.status o.failureReason (.ok ())⟩
        :: s.journal := by
  show (⟨s.now, .status o.id o.status o.failureReason
    (s.writeStatus H.platform o).1⟩ :: s.journal : Journal) = _
  rw [hr]

namespace Ledger

variable {phases : List LoopPhase} {calls : List HandlerCall}
  (h : Ledger table base ops s.world.1 s.journal phases calls)

include h

/-- A poll is entered and changes nothing else. -/
lemma poll : Ledger table base ops (s.poll H.platform).2.world.1
    (s.poll H.platform).2.journal phases calls :=
  (h.memory s.world.1.poll_keeps.1 s.world.1.poll_keeps.2).quiet
    (Event.isQuiet_poll _)

/-- A write that fails is entered and changes nothing else. -/
lemma writeStatus_error {o : Operation} {e : Failure}
    (hr : (s.writeStatus H.platform o).1 = .error e) :
    Ledger table base ops (s.writeStatus H.platform o).2.world.1
      (s.writeStatus H.platform o).2.journal phases calls := by
  have hm := MemoryPlatform.write_error (Prod.ext hr rfl)
  refine (h.memory hm.1 hm.2).quiet ?_
  have hq := Event.isQuiet_status_error o.id o.status o.failureReason e
  rwa [← hr] at hq

/-- A write that succeeds is recorded.  The loop that goes on made it,
and holds nothing afterwards. -/
lemma writeStatus_ok {o o₀ : Operation} {i : Nat} {phase : LoopPhase}
    (phase' : LoopPhase)
    (hr : (s.writeStatus H.platform o).1 = .ok ())
    (hi : phases[i]? = some phase) (hne : phase ≠ .exited)
    (hfree : phase'.IsFree) (ho : o₀ ∈ ops) (hid : o₀.id = o.id)
    (hpath : Path table.supportedKinds o₀
      (s.journal.statuses o₀.id ++ [o.status]))
    (hover : ∀ c ∈ calls, c.operation.id = o.id → c.isOver = true)
    (hsucc : o.status = .successful → ∃ c ∈ calls, c.operation.id = o.id
      ∧ c.phase = .ended (some (.returned .successful))) :
    Ledger table base ops (s.writeStatus H.platform o).2.world.1
      (s.writeStatus H.platform o).2.journal (phases.set i phase')
      calls := by
  have hm := MemoryPlatform.operations_writeStatus h.nodup_operations
    (Prod.ext hr rfl)
  rw [Site.journal_writeStatus hr]
  exact h.write hi hne hfree hm.1 hm.2 rfl rfl ho hid hpath hover hsucc

end Ledger

/-! ### Steps -/

/-- A worker with this table is on the ledger. -/
def Tracked (table : HandlerTable) (base : List StatusWrite)
    (ops : List Operation) (s : Site (MemoryPlatform × τ)) (w : Worker) :
    Prop :=
  w.table = table
    ∧ Ledger table base ops s.world.1 s.journal w.phases w.cores

namespace Tracked

variable {i : Nat} {l : PollLoop} {phase : LoopPhase}

/-- A loop that goes on enters a phase that it can rely on. -/
lemma setLoop {l' : PollLoop} (h : Tracked table base ops s w)
    (hl : w.loops[i]? = some l) (hne : l.phase ≠ .exited)
    (hh : Holds table ops s.journal w.cores phase) :
    Tracked table base ops s (w.setLoop i l' phase) := by
  refine ⟨h.1, ?_⟩
  rw [Worker.phases_setLoop]
  exact h.2.setPhase (Worker.phases_getElem? hl) hne hh

/-- A loop that goes on pauses, be it after a failure or not. -/
lemma pause (h : Tracked table base ops s w) (hl : w.loops[i]? = some l)
    (hne : l.phase ≠ .exited) :
    Tracked table base ops s (w.setLoop i l (Worker.pause s w)) :=
  h.setLoop hl hne trivial

lemma quiet {e : Event} (h : Tracked table base ops s w)
    (he : e.IsQuiet) : Tracked table base ops (s.note e) w :=
  ⟨h.1, h.2.quiet he⟩

lemma failCycle (h : Tracked table base ops s w)
    (hl : w.loops[i]? = some l) (hne : l.phase ≠ .exited) :
    Tracked table base ops (Worker.failCycle s w).1
      (w.setLoop i l (Worker.failCycle s w).2) :=
  (h.quiet (Event.isQuiet_counted _)).setLoop hl hne trivial

/-- A pending operation of the platform is rejected or claimed. -/
lemma dispatch {o : Operation} (h : Tracked table base ops s w)
    (hl : w.loops[i]? = some l) (hne : l.phase ≠ .exited)
    (ho : o ∈ s.world.1.operations) (hp : o.status = .pending) :
    Tracked table base ops (Worker.dispatch H.platform s w o).1
      (w.setLoop i l (Worker.dispatch H.platform s w o).2) := by
  obtain ⟨hmem, hnil⟩ := h.2.of_pending ho hp
  cases hc : Matching.convert? o w.table.supportedKinds with
  | none =>
    obtain ⟨reason, due, hd⟩ :=
      Worker.dispatch_pending_none H.platform s w hp hc
    rw [hd]
    refine (h.quiet (Event.isQuiet_counted _)).setLoop hl hne ?_
    rw [h.1] at hc
    exact ⟨rfl, (Journal.statuses_cons_of_none rfl _).trans hnil, o, hmem,
      rfl, hp, hc⟩
  | some t =>
    obtain ⟨owner, due, how, hd⟩ :=
      Worker.dispatch_pending_some H.platform s w hp hc
    rw [hd]
    refine h.setLoop hl hne ⟨rfl, hnil, o, hmem, rfl, hp, ⟨t, ?_, rfl⟩, ?_⟩
    · rw [← h.1, hc]
    · rw [TypedOperation.kind_claimed, ← h.1, how]

/-- A poll is entered, and what it hands out is dispatched. -/
lemma poll (h : Tracked table base ops s w) (hl : w.loops[i]? = some l)
    (hne : l.phase ≠ .exited) {r : Except Failure (Option Operation)}
    (hr : (s.poll H.platform).1 = r) :
    let next := match r with
      | .ok (some o) =>
        Worker.dispatch H.platform (s.poll H.platform).2 w o
      | .ok none => ((s.poll H.platform).2,
        Worker.pause (s.poll H.platform).2 w)
      | .error _ => Worker.failCycle (s.poll H.platform).2 w
    Tracked table base ops next.1 (w.setLoop i l next.2) := by
  have hpoll : Tracked table base ops (s.poll H.platform).2 w :=
    ⟨h.1, h.2.poll⟩
  match r, hr with
  | .ok (some o), hr =>
    obtain ⟨ho, hp⟩ := MemoryPlatform.mem_of_poll hr
    refine hpoll.dispatch hl hne ?_ hp
    show o ∈ s.world.1.poll.2.operations
    rw [s.world.1.poll_keeps.1]
    exact ho
  | .ok none, _ => exact hpoll.pause hl hne
  | .error _, _ => exact hpoll.failCycle hl hne

/-- The last write of a cycle is entered, and recorded if it succeeds. -/
lemma endCycle {o o₀ : Operation} (h : Tracked table base ops s w)
    (hl : w.loops[i]? = some l) (hne : l.phase ≠ .exited)
    {r : Except Failure Unit} (hr : (s.writeStatus H.platform o).1 = r)
    (ho : o₀ ∈ ops) (hid : o₀.id = o.id)
    (hpath : Path table.supportedKinds o₀
      (s.journal.statuses o₀.id ++ [o.status]))
    (hover : ∀ c ∈ w.cores, c.operation.id = o.id → c.isOver = true)
    (hsucc : o.status = .successful → ∃ c ∈ w.cores,
      c.operation.id = o.id
        ∧ c.phase = .ended (some (.returned .successful))) :
    let next := Worker.endCycle H.platform
      (s.writeStatus H.platform o).2 w r
    Tracked table base ops next.1 (w.setLoop i l next.2) := by
  match r, hr with
  | .ok (), hr =>
    refine ⟨h.1, ?_⟩
    rw [Worker.phases_setLoop]
    exact h.2.writeStatus_ok _ hr (Worker.phases_getElem? hl) hne
      (Worker.nextCycle_isFree H.platform _ w) ho hid hpath hover hsucc
  | .error e, hr =>
    have hw : Tracked table base ops (s.writeStatus H.platform o).2 w :=
      ⟨h.1, h.2.writeStatus_error hr⟩
    exact hw.failCycle hl hne

/-- The loop makes a call once the claim of its operation is recorded,
and holds nothing when it is not. -/
lemma claim {o : Operation} {t : TypedOperation} {hd : Handler}
    {due : Nat} (h : Tracked table base ops s w)
    (hl : w.loops[i]? = some l) (hph : l.phase = .claiming o t hd due)
    (hr : (s.writeStatus H.platform o).1 = .ok ()) :
    Tracked table base ops (s.writeStatus H.platform o).2
      ((w.spawnCall hd t).setLoop i l (.executing o w.calls.length)) := by
  have hi := Worker.phases_getElem? hl
  have hne : l.phase ≠ .exited := by rw [hph]; exact LoopPhase.noConfusion
  have hmem : l.phase ∈ w.phases := List.mem_of_getElem? hi
  obtain ⟨hex, hnil, o₀, ho₀, hid, hdis⟩ :
      Holds table ops s.journal w.cores (.claiming o t hd due) :=
    hph ▸ h.2.holds _ hmem
  have hno : ∀ c ∈ w.cores, c.operation.id ≠ o.id := h.2.no_call hnil
  have htid : t.id = o.id := hdis.id_eq.trans hid
  -- the claim is recorded
  have hw := h.2.writeStatus_ok (.idle 0) hr hi hne trivial ho₀
    hid (by rw [hid, hnil, hex]; exact .claimed hdis.pending hdis.isSome)
    (fun c hc hcid => absurd hcid (hno c hc))
    (fun hs => by rw [hex] at hs; cases hs)
  have hst : (s.writeStatus H.platform o).2.journal.statuses t.id
      = [.executing] := by
    rw [Site.journal_writeStatus hr, Journal.statuses_cons rfl, htid,
      if_pos rfl, hnil, hex]
    rfl
  -- the call is made, and the loop waits for it
  have hs := hw.spawn hst ho₀ hdis fun c hc => htid ▸ hno c hc
  refine ⟨h.1, ?_⟩
  rw [Worker.phases_setLoop, show (w.spawnCall hd t).phases = w.phases
    from rfl, ← List.set_set (.idle 0)]
  show Ledger _ _ _ _ _ _ (w.spawnCall hd t).cores
  rw [Worker.cores_spawnCall]
  have hi' : (w.phases.set i (.idle 0))[i]? = some (.idle 0) :=
    List.getElem?_set_self (List.getElem?_eq_some_iff.1 hi).1
  refine hs.setPhase hi' LoopPhase.noConfusion
    ⟨hex, htid ▸ hst, { handler := hd, operation := t }, ?_, htid⟩
  rw [← w.length_cores, List.getElem?_concat_length]

/-- What a call has come to is reported. -/
lemma conclude {o : Operation} {n : Nat} {r : Option Outcome}
    (h : Tracked table base ops s w) (hl : w.loops[i]? = some l)
    (hph : l.phase = .executing o n)
    (hr : w.calls[n]?.bind HandlerCall.result? = some r) :
    Tracked table base ops (Worker.conclude H.platform s w o r).1
      (w.setLoop i l (Worker.conclude H.platform s w o r).2) := by
  have hmem : l.phase ∈ w.phases :=
    List.mem_of_getElem? (Worker.phases_getElem? hl)
  obtain ⟨hex, hst, c, hc, hid⟩ :
      Holds table ops s.journal w.cores (.executing o n) :=
    hph ▸ h.2.holds _ hmem
  obtain ⟨c₀, hc₀, hres⟩ := Option.bind_eq_some_iff.1 hr
  obtain rfl : c₀.core = c :=
    Option.some.inj ((Worker.cores_getElem? hc₀).symm.trans hc)
  have hended : c₀.core.phase = .ended r := by
    show c₀.phase = .ended r
    rw [HandlerCall.result?] at hres
    split at hres
    · next heq => rw [heq, Option.some.inj hres]
    · cases hres
  obtain ⟨due, hco⟩ := Worker.conclude_executing H.platform s w hex r
  rw [hco]
  refine (h.quiet (Event.isQuiet_counted _)).setLoop hl ?_ ?_
  · rw [hph]
    exact LoopPhase.noConfusion
  · exact ⟨report_isTerminal r,
      (Journal.statuses_cons_of_none rfl _).trans hst, c₀.core,
      List.mem_of_getElem? hc, hid, r, hended, eq_of_report_successful⟩

/-- The loop reports an operation that it has rejected. -/
lemma endRejecting {o : Operation} {due : Nat}
    (h : Tracked table base ops s w) (hl : w.loops[i]? = some l)
    (hph : l.phase = .rejecting o due) {r : Except Failure Unit}
    (hr : (s.writeStatus H.platform o).1 = r) :
    let next := Worker.endCycle H.platform
      (s.writeStatus H.platform o).2 w r
    Tracked table base ops next.1 (w.setLoop i l next.2) := by
  have hmem : l.phase ∈ w.phases :=
    List.mem_of_getElem? (Worker.phases_getElem? hl)
  obtain ⟨hf, hnil, o₀, ho₀, hid, hp, hc⟩ :
      Holds table ops s.journal w.cores (.rejecting o due) :=
    hph ▸ h.2.holds _ hmem
  refine h.endCycle hl ?_ hr ho₀ hid ?_ ?_ ?_
  · rw [hph]
    exact LoopPhase.noConfusion
  · rw [hid, hnil, hf]
    exact .rejected hp hc
  · exact fun c hc hcid => absurd hcid (h.2.no_call hnil c hc)
  · exact fun hs => by rw [hf] at hs; cases hs

/-- The loop reports what a call has come to. -/
lemma endReporting {o : Operation} {due : Nat}
    (h : Tracked table base ops s w) (hl : w.loops[i]? = some l)
    (hph : l.phase = .reporting o due) {r : Except Failure Unit}
    (hr : (s.writeStatus H.platform o).1 = r) :
    let next := Worker.endCycle H.platform
      (s.writeStatus H.platform o).2 w r
    Tracked table base ops next.1 (w.setLoop i l next.2) := by
  have hmem : l.phase ∈ w.phases :=
    List.mem_of_getElem? (Worker.phases_getElem? hl)
  obtain ⟨ht, hst, c, hc, hid, res, hended, hsucc⟩ :
      Holds table ops s.journal w.cores (.reporting o due) :=
    hph ▸ h.2.holds _ hmem
  obtain ⟨o₀, ho₀, hdis⟩ := h.2.dispatched c hc
  have hid₀ : o₀.id = o.id := hdis.id_eq.symm.trans hid
  refine h.endCycle hl ?_ hr ho₀ hid₀ ?_ ?_ ?_
  · rw [hph]
    exact LoopPhase.noConfusion
  · have hpath := h.2.paths o₀ ho₀
    rw [hid₀, hst] at hpath ⊢
    exact hpath.conclude ht
  · -- there is one call for the operation, and it is over
    intro c' hc' hcid
    obtain rfl : c' = c := List.inj_on_of_nodup_map h.2.distinct_calls hc'
      hc (hcid.trans hid.symm)
    rw [HandlerCall.isOver, HandlerCall.result?, hended]
    rfl
  · exact fun hs => ⟨c, hc, hid, hsucc hs ▸ hended⟩

/-- The steps of a loop that is not to be cut off. -/
lemma runLoop (h : Tracked table base ops s w)
    (hl : w.loops[i]? = some l)
    (hr : Worker.runLoop H.platform s w i l = some (s', w')) :
    Tracked table base ops s' w' := by
  cases hph : l.phase with
  | spawned =>
    simp only [Worker.runLoop, hph] at hr
    cases hr
    refine h.setLoop hl ?_ (holds_of_isFree (Worker.nextCycle_isFree ..))
    rw [hph]
    exact LoopPhase.noConfusion
  | polling due =>
    have hne : l.phase ≠ .exited := by rw [hph]; exact LoopPhase.noConfusion
    simp only [Worker.runLoop, hph] at hr
    split at hr
    · cases hr
      exact h.poll hl hne rfl
    · cases hr
  | rejecting o due =>
    simp only [Worker.runLoop, hph] at hr
    split at hr
    · cases hr
      exact h.endRejecting hl hph rfl
    · cases hr
  | claiming o t hd due =>
    have hne : l.phase ≠ .exited := by rw [hph]; exact LoopPhase.noConfusion
    simp only [Worker.runLoop, hph] at hr
    split at hr
    · split at hr
      · next heq =>
        cases hr
        exact h.claim hl hph heq
      · next e heq =>
        cases hr
        have hw : Tracked table base ops (s.writeStatus H.platform o).2 w :=
          ⟨h.1, h.2.writeStatus_error heq⟩
        exact hw.failCycle hl hne
    · cases hr
  | executing o n =>
    simp only [Worker.runLoop, hph] at hr
    split at hr
    · next r heq =>
      cases hr
      have hw : Tracked table base ops s { w with inFlight := none } := h
      exact hw.conclude hl hph heq
    · cases hr
  | reporting o due =>
    simp only [Worker.runLoop, hph] at hr
    split at hr
    · cases hr
      exact h.endReporting hl hph rfl
    · cases hr
  | idle due =>
    simp only [Worker.runLoop, hph] at hr
    split at hr
    · cases hr
      refine h.setLoop hl ?_ (holds_of_isFree (Worker.nextCycle_isFree ..))
      rw [hph]
      exact LoopPhase.noConfusion
    · cases hr
  | exited =>
    simp only [Worker.runLoop, hph] at hr
    cases hr

/-- The steps of a loop. -/
theorem stepLoop (h : Tracked table base ops s w)
    (hs : Worker.stepLoop H.platform s w i = some (s', w')) :
    Tracked table base ops s' w' := by
  rw [Worker.stepLoop] at hs
  split at hs
  · next l hl =>
    split at hs
    · cases hs
    · next hover =>
      have hne : l.phase ≠ .exited := by
        simpa [PollLoop.isOver] using hover
      split at hs
      · cases hs
        exact h.setLoop hl hne trivial
      · exact h.runLoop hl hs
  · cases hs

/-- The steps of a call of a handler. -/
theorem stepCall (h : Tracked table base ops s w)
    (hs : Worker.stepCall H.platform s w i = some (s', w')) :
    Tracked table base ops s' w' := by
  rw [Worker.stepCall] at hs
  split at hs
  · next c hc =>
    have hn := Worker.cores_getElem? hc
    split at hs
    · cases hs
    · next hover =>
      have hopen : c.core.isOver = false := Bool.eq_false_iff.2 hover
      -- a call that is cut off, or that ends by itself
      have hend : ∀ r, Tracked table base ops s
          (w.setCall i c (.ended r)) := fun r => by
        refine ⟨h.1, ?_⟩
        rw [Worker.cores_setCall]
        exact h.2.setCall hn hopen rfl rfl CallPhase.noConfusion
      split at hs
      · cases hs
        exact hend none
      · split at hs
        · next hph =>
          cases hs
          refine ⟨h.1, ?_⟩
          rw [Worker.cores_setCall]
          exact h.2.beginCall hn hph rfl rfl CallPhase.noConfusion rfl
        · next due outcome hph =>
          split at hs
          · cases hs
            split
            · exact hend _
            · exact (hend _).quiet (Event.isQuiet_finish _ _)
          · cases hs
        · cases hs
  · cases hs

end Tracked

/-- No loop is alive. -/
def WorkerSystem.IsResting {σ : Type} (s : WorkerSystem σ) : Prop :=
  ∀ l ∈ s.worker.loops, l.isOver = true

/-- All moves of a worker keep its ledger, if a loop is only started when
no other one is alive. -/
theorem Tracked.move {s s' : WorkerSystem (MemoryPlatform × τ)}
    (hm : WorkerSystem.Move H.platform WorkerSystem.IsResting s s')
    (h : Tracked table base ops s.site s.worker) :
    Tracked table base ops s'.site s'.worker := by
  refine hm.keeps (P := Tracked table base ops) ?_ ?_ ?_ ?_ ?_ h
  · -- callers
    intro s s' w w' hs hw h
    obtain ⟨htable, hledger⟩ := h
    have hw' : Tracked table base ops s w' := by
      refine ⟨hw.table.trans htable, ?_⟩
      rw [hw.phases, hw.cores]
      exact hledger
    rcases hs with rfl | ⟨n, rfl⟩
    · exact hw'
    · exact hw'.quiet (Event.isQuiet_returned n)
  · -- the clock
    exact fun _ h => h
  · -- a start
    intro s w' hrest hstart h
    obtain ⟨htable, hphases, hcores⟩ := Worker.tasks_start? hstart
    refine ⟨htable.trans h.1, ?_⟩
    rw [hphases, hcores]
    refine h.2.start fun phase hphase => ?_
    obtain ⟨l, hl, rfl⟩ := List.mem_map.1 hphase
    exact of_decide_eq_true (hrest l hl)
  · exact fun hs h => h.stepLoop hs
  · exact fun hs h => h.stepCall hs

end RemoteOps
