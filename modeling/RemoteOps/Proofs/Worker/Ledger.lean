/-
The ledger of a worker on a platform in memory: how the operations of the
platform, the record of writes, the phase of the loop and the calls of
handlers hang together.

* `Path`: the statuses that can be recorded for an operation;
* `Holds`: what a loop that holds an operation relies on;
* `Ledger`: the invariant.  Each of the following lemmas is about one
  kind of change: `Ledger.quiet`, `Ledger.memory`, `Ledger.setPhase`,
  `Ledger.write`, `Ledger.spawn`, `Ledger.beginCall`, `Ledger.setCall`,
  `Ledger.start`, `Ledger.push`.
-/
import RemoteOps.Proofs.Journal
import RemoteOps.Proofs.Lists
import RemoteOps.Proofs.Worker.Cycle
import RemoteOps.Proofs.Worker.Moves

namespace RemoteOps

/-- The statuses that can be recorded for an operation, given how it was
issued and which kinds are supported. -/
inductive Path (kinds : List String) (o : Operation) :
    List Status → Prop where
  | untouched : Path kinds o []
  | rejected (hp : o.status = .pending)
    (hc : Matching.convert? o kinds = none) : Path kinds o [.failed]
  | claimed (hp : o.status = .pending)
    (hc : (Matching.convert? o kinds).isSome = true) :
    Path kinds o [.executing]
  | concluded {status : Status} (hp : o.status = .pending)
    (hc : (Matching.convert? o kinds).isSome = true)
    (ht : status.isTerminal = true) : Path kinds o [.executing, status]

/-- What an operation is dispatched to: the typed operation, claimed, and
the owner of its kind. -/
structure Dispatched (table : HandlerTable) (o : Operation)
    (t : TypedOperation) (h : Handler) : Prop where
  pending : o.status = .pending
  converted : ∃ t₀, Matching.convert? o table.supportedKinds = some t₀
    ∧ t = t₀.claimed
  owner : table.handlerFor? t.kind = some h

/-- What a loop in a phase relies on. -/
def Holds (table : HandlerTable) (ops : List Operation) (j : Journal)
    (calls : List HandlerCall) : LoopPhase → Prop
  | .rejecting o _ => o.status = .failed ∧ j.statuses o.id = []
    ∧ ∃ o₀ ∈ ops, o₀.id = o.id ∧ o₀.status = .pending
      ∧ Matching.convert? o₀ table.supportedKinds = none
  | .claiming o t h _ => o.status = .executing ∧ j.statuses o.id = []
    ∧ ∃ o₀ ∈ ops, o₀.id = o.id ∧ Dispatched table o₀ t h
  | .executing o n => o.status = .executing
    ∧ j.statuses o.id = [.executing]
    ∧ ∃ c, calls[n]? = some c ∧ c.operation.id = o.id
  | .reporting o _ => o.status.isTerminal = true
    ∧ j.statuses o.id = [.executing]
    ∧ ∃ c ∈ calls, c.operation.id = o.id ∧ ∃ r, c.phase = .ended r
      ∧ (o.status = .successful → r = some (.returned .successful))
  | .spawned | .polling _ | .idle _ | .exited => True

/-- The invariant of a worker on a platform in memory.  Here `base` are
the writes recorded before the run, and `ops` the operations as they were
issued. -/
structure Ledger (table : HandlerTable) (base : List StatusWrite)
    (ops : List Operation) (m : MemoryPlatform) (j : Journal)
    (phases : List LoopPhase) (calls : List HandlerCall) : Prop where
  distinct : (ops.map (·.id)).Nodup
  operations : m.operations = ops.map (·.after j.written)
  writes : m.writes = base ++ j.written
  /-- Only issued operations are written. -/
  known : ∀ w ∈ j.written, ∃ o ∈ ops, o.id = w.id
  paths : ∀ o ∈ ops, Path table.supportedKinds o (j.statuses o.id)
  guarded : Journal.Guarded j
  single : EarlierExited phases
  holds : ∀ phase ∈ phases, Holds table ops j calls phase
  dispatched : ∀ c ∈ calls, ∃ o ∈ ops,
    Dispatched table o c.operation c.handler
  claimed : ∀ c ∈ calls, j.statuses c.operation.id ≠ []
  /-- While a call goes on, nothing is recorded after the claim. -/
  open_claim : ∀ c ∈ calls, c.isOver = false →
    j.statuses c.operation.id = [.executing]
  distinct_calls : (calls.map (·.operation.id)).Nodup
  /-- A handler is called once for each call that was not cut off before
  it ran. -/
  once : ∀ id, j.executions id
      + calls.countP (fun c => c.operation.id = id && c.phase = .spawned)
    ≤ calls.countP (fun c => c.operation.id = id)
  successful : ∀ id, .successful ∈ j.statuses id → ∃ c ∈ calls,
    c.operation.id = id ∧ c.phase = .ended (some (.returned .successful))

/-! ### Paths and dispatched operations -/

lemma Dispatched.id_eq {table : HandlerTable} {o : Operation}
    {t : TypedOperation} {h : Handler} (hd : Dispatched table o t h) :
    t.id = o.id := by
  obtain ⟨t₀, ht₀, rfl⟩ := hd.converted
  rw [TypedOperation.id_claimed, Matching.id_of_convert? ht₀]

lemma Dispatched.isSome {table : HandlerTable} {o : Operation}
    {t : TypedOperation} {h : Handler} (hd : Dispatched table o t h) :
    (Matching.convert? o table.supportedKinds).isSome = true := by
  obtain ⟨t₀, ht₀, -⟩ := hd.converted
  rw [ht₀, Option.isSome_some]

/-- The last recorded status is never pending. -/
lemma Path.getLast?_ne {kinds : List String} {o : Operation}
    {l : List Status} (h : Path kinds o l) : l.getLast? ≠ some .pending := by
  cases h with
  | untouched => simp
  | rejected => simp
  | claimed => simp
  | concluded _ _ ht =>
    rintro heq
    rw [show ∀ a b : Status, [a, b].getLast? = some b from fun _ _ => rfl,
      Option.some.injEq] at heq
    simp [heq, Status.isTerminal] at ht

/-- After the claim comes a terminal status or nothing. -/
lemma Path.conclude {kinds : List String} {o : Operation} {status : Status}
    (h : Path kinds o [.executing]) (ht : status.isTerminal = true) :
    Path kinds o ([.executing] ++ [status]) := by
  cases h with
  | claimed hp hc => exact .concluded hp hc ht

lemma Path.pending {kinds : List String} {o : Operation} {l : List Status}
    (h : Path kinds o l) (hl : l ≠ []) : o.status = .pending := by
  cases h with
  | untouched => exact absurd rfl hl
  | rejected hp | claimed hp | concluded hp => exact hp

/-! ### What a loop relies on -/

section Holds

variable {table : HandlerTable} {ops : List Operation} {j j' : Journal}
  {calls : List HandlerCall} {phase : LoopPhase}

lemma holds_of_isFree (h : phase.IsFree) :
    Holds table ops j calls phase := by
  cases phase <;> trivial

/-- Only the recorded statuses of a journal matter. -/
lemma Holds.congr (h : Holds table ops j calls phase)
    (hj : ∀ id, j'.statuses id = j.statuses id) :
    Holds table ops j' calls phase := by
  cases phase <;> first | trivial | simpa only [Holds, hj] using h

lemma Holds.append_calls (h : Holds table ops j calls phase)
    (new : List HandlerCall) : Holds table ops j (calls ++ new) phase := by
  cases phase with
  | executing o n =>
    obtain ⟨ho, hj, c, hc, hid⟩ := h
    refine ⟨ho, hj, c, ?_, hid⟩
    obtain ⟨hn, -⟩ := List.getElem?_eq_some_iff.1 hc
    rw [List.getElem?_append_left hn, hc]
  | reporting o due =>
    obtain ⟨ho, hj, c, hc, hr⟩ := h
    exact ⟨ho, hj, c, List.mem_append_left _ hc, hr⟩
  | _ => exact h

lemma Holds.append_ops (h : Holds table ops j calls phase)
    (new : List Operation) : Holds table (ops ++ new) j calls phase := by
  cases phase with
  | rejecting o due =>
    obtain ⟨ho, hj, o₀, ho₀, hr⟩ := h
    exact ⟨ho, hj, o₀, List.mem_append_left _ ho₀, hr⟩
  | claiming o t hd due =>
    obtain ⟨ho, hj, o₀, ho₀, hr⟩ := h
    exact ⟨ho, hj, o₀, List.mem_append_left _ ho₀, hr⟩
  | _ => exact h

/-- A call that is not over may go on. -/
lemma Holds.set_call (h : Holds table ops j calls phase) {n : Nat}
    {c c' : HandlerCall} (hn : calls[n]? = some c)
    (hover : c.isOver = false) (hop : c'.operation = c.operation) :
    Holds table ops j (calls.set n c') phase := by
  obtain ⟨hlt, -⟩ := List.getElem?_eq_some_iff.1 hn
  cases phase with
  | executing o k =>
    obtain ⟨ho, hj, c₀, hc₀, hid⟩ := h
    refine ⟨ho, hj, ?_⟩
    by_cases hk : n = k
    · subst hk
      obtain rfl : c = c₀ := Option.some.inj (hn.symm.trans hc₀)
      exact ⟨c', by rw [List.getElem?_set_self hlt], hop ▸ hid⟩
    · exact ⟨c₀, by rw [List.getElem?_set_ne hk, hc₀], hid⟩
  | reporting o due =>
    obtain ⟨ho, hj, c₀, hc₀, hid, r, hr, hs⟩ := h
    obtain ⟨k, hk, hk₀⟩ := List.mem_iff_getElem.1 hc₀
    have hne : n ≠ k := by
      rintro rfl
      have : c₀ = c := by
        rw [← hk₀]
        exact (List.getElem?_eq_some_iff.1 hn).2
      rw [this] at hr
      simp [HandlerCall.isOver, HandlerCall.result?, hr] at hover
    have hmem : c₀ ∈ calls.set n c' := by
      refine List.mem_iff_getElem?.2 ⟨k, ?_⟩
      rw [List.getElem?_set_ne hne, List.getElem?_eq_getElem hk, hk₀]
    exact ⟨ho, hj, c₀, hmem, hid, r, hr, hs⟩
  | _ => exact h

end Holds

/-! ### What keeps the ledger -/

section Counts

variable {calls : List HandlerCall} {n : Nat} {c c' : HandlerCall}

/-- How many calls there are for an operation does not change when a call
goes on. -/
lemma countFor_set (hn : calls[n]? = some c)
    (hop : c'.operation = c.operation) (id : String) :
    (calls.set n c').countP (fun c => c.operation.id = id)
      = calls.countP (fun c => c.operation.id = id) := by
  have hmap : (calls.set n c').map (·.operation.id)
      = calls.map (·.operation.id) := map_set_of_eq hn (by rw [hop])
  have hcount : ∀ l : List HandlerCall,
      l.countP (fun c => c.operation.id = id)
        = (l.map (·.operation.id)).countP (· = id) := fun l => by
    rw [List.countP_map]
    rfl
  rw [hcount, hmap, ← hcount]

/-- A call that has run no longer counts as one that has not. -/
lemma spawned_set (hn : calls[n]? = some c) (hph : c'.phase ≠ .spawned)
    (id : String) :
    (calls.set n c').countP
        (fun c => c.operation.id = id && c.phase = .spawned)
      + (if c.operation.id = id && c.phase = .spawned then 1 else 0)
      = calls.countP
        (fun c => c.operation.id = id && c.phase = .spawned) := by
  obtain ⟨hlt, hget⟩ := List.getElem?_eq_some_iff.1 hn
  rw [List.countP_set hlt, hget]
  by_cases hc : (c.operation.id = id && c.phase = .spawned) = true
  · have hpos : 0 < calls.countP
        (fun c => c.operation.id = id && c.phase = .spawned) :=
      List.countP_pos_iff.2 ⟨c, hget ▸ List.getElem_mem hlt, hc⟩
    simp only [hc, hph, decide_false, Bool.and_false, if_true]
    simp only [Bool.false_eq_true, if_false]
    omega
  · simp only [hc, hph, decide_false, Bool.and_false]
    simp

end Counts

namespace Ledger

variable {table : HandlerTable} {base : List StatusWrite}
  {ops : List Operation} {m m' : MemoryPlatform} {j : Journal}
  {phases : List LoopPhase} {calls : List HandlerCall}
  (h : Ledger table base ops m j phases calls)

include h

/-- Issued operations of one identifier are the same. -/
lemma eq_of_id_eq {o o' : Operation} (ho : o ∈ ops) (ho' : o' ∈ ops)
    (hid : o.id = o'.id) : o = o' :=
  List.inj_on_of_nodup_map h.distinct ho ho' hid

/-- The operations of the platform have distinct identifiers. -/
lemma nodup_operations : (m.operations.map (·.id)).Nodup := by
  rw [h.operations, List.map_map,
    show ((·.id) ∘ (·.after j.written) : Operation → String) = (·.id)
      from funext fun o => o.id_after _]
  exact h.distinct

/-- An operation of the platform that is pending is as it was issued, and
nothing was recorded for it. -/
lemma of_pending {o : Operation} (ho : o ∈ m.operations)
    (hp : o.status = .pending) : o ∈ ops ∧ j.statuses o.id = [] := by
  rw [h.operations] at ho
  obtain ⟨o₀, ho₀, rfl⟩ := List.mem_map.1 ho
  have hs := Operation.status_after o₀ j.written
  rw [hp] at hs
  have hpath := h.paths o₀ ho₀
  have hnil : j.statuses o₀.id = [] := by
    by_contra hne
    obtain ⟨st, hst⟩ : ∃ st, (j.statuses o₀.id).getLast? = some st :=
      ⟨_, List.getLast?_eq_getLast_of_ne_nil hne⟩
    have hlast := hst
    rw [Journal.statuses] at hst
    rw [hst, Option.getD_some] at hs
    exact hpath.getLast?_ne (hs ▸ hlast)
  rw [Operation.after_of_statuses_eq_nil hnil]
  exact ⟨ho₀, hnil⟩

/-- Without recorded statuses there is no call. -/
lemma no_call {id : String} (hid : j.statuses id = []) :
    ∀ c ∈ calls, c.operation.id ≠ id := by
  rintro c hc rfl
  exact h.claimed c hc hid

/-- When the phase of a loop that goes on is replaced, it is enough to
look at the new phase. -/
lemma forall_set {P : LoopPhase → Prop} (hex : P .exited) {i : Nat}
    {phase phase' : LoopPhase} (hi : phases[i]? = some phase)
    (hne : phase ≠ .exited) (hP : P phase') :
    ∀ ph ∈ phases.set i phase', P ph := by
  intro ph hph
  obtain ⟨k, hk⟩ := List.mem_iff_getElem?.1 hph
  by_cases hki : i = k
  · subst hki
    obtain ⟨hlt, -⟩ := List.getElem?_eq_some_iff.1 hi
    rw [List.getElem?_set_self hlt, Option.some.injEq] at hk
    exact hk ▸ hP
  · rw [List.getElem?_set_ne hki] at hk
    exact h.single.exited_of_ne hi hne hk (Ne.symm hki) ▸ hex

/-- Quiet events change nothing. -/
lemma quiet {e : Entry} (he : e.event.IsQuiet) :
    Ledger table base ops m (e :: j) phases calls := by
  have hw : Journal.written (e :: j) = j.written :=
    Journal.written_cons_of_none he.1
  have hs : ∀ id, Journal.statuses id (e :: j) = j.statuses id :=
    Journal.statuses_cons_of_none he.1
  exact {
    distinct := h.distinct
    operations := by rw [hw, h.operations]
    writes := by rw [hw, h.writes]
    known := by rw [hw]; exact h.known
    paths := fun o ho => by rw [hs]; exact h.paths o ho
    guarded := h.guarded.cons_of_none he.2
    single := h.single
    holds := fun ph hph => (h.holds ph hph).congr hs
    dispatched := h.dispatched
    claimed := fun c hc => by rw [hs]; exact h.claimed c hc
    open_claim := fun c hc ho => by rw [hs]; exact h.open_claim c hc ho
    distinct_calls := h.distinct_calls
    once := fun id => by
      rw [Journal.executions_cons_of_none he.2]
      exact h.once id
    successful := fun id => by rw [hs]; exact h.successful id }

/-- Only the operations and the record of the platform matter. -/
lemma memory (ho : m'.operations = m.operations)
    (hw : m'.writes = m.writes) :
    Ledger table base ops m' j phases calls :=
  { h with
    operations := by rw [ho, h.operations]
    writes := by rw [hw, h.writes] }

/-- A loop that goes on may enter any phase that it can rely on. -/
lemma setPhase {i : Nat} {phase phase' : LoopPhase}
    (hi : phases[i]? = some phase) (hne : phase ≠ .exited)
    (hh : Holds table ops j calls phase') :
    Ledger table base ops m j (phases.set i phase') calls :=
  { h with
    single := h.single.set phase' hi hne
    holds := h.forall_set trivial hi hne hh }

/-- A recorded write of the loop that goes on, for an operation without
an open call, after which the loop holds nothing. -/
lemma write {i : Nat} {phase phase' : LoopPhase} {e : Entry}
    {w : StatusWrite} {o : Operation}
    (hi : phases[i]? = some phase) (hne : phase ≠ .exited)
    (hfree : phase'.IsFree) (hm : m'.operations
      = m.operations.map (·.afterWrite w))
    (hw : m'.writes = m.writes ++ [w]) (he : e.event.write? = some w)
    (hx : e.event.executed? = none) (ho : o ∈ ops) (hid : o.id = w.id)
    (hpath : Path table.supportedKinds o (j.statuses o.id ++ [w.status]))
    (hover : ∀ c ∈ calls, c.operation.id = w.id → c.isOver = true)
    (hsucc : w.status = .successful → ∃ c ∈ calls, c.operation.id = w.id
      ∧ c.phase = .ended (some (.returned .successful))) :
    Ledger table base ops m' (e :: j) (phases.set i phase') calls := by
  have hwr : Journal.written (e :: j) = j.written ++ [w] :=
    Journal.written_cons_of_some he
  have hself : Journal.statuses w.id (e :: j)
      = j.statuses w.id ++ [w.status] := by
    rw [Journal.statuses_cons he, if_pos rfl]
  have hother : ∀ id, w.id ≠ id →
      Journal.statuses id (e :: j) = j.statuses id := fun id hne => by
    rw [Journal.statuses_cons he, if_neg hne, List.append_nil]
  refine {
    distinct := h.distinct
    operations := ?_
    writes := by rw [hw, h.writes, hwr, List.append_assoc]
    known := ?_
    paths := ?_
    guarded := h.guarded.cons_of_none hx
    single := h.single.set phase' hi hne
    holds := h.forall_set trivial hi hne (holds_of_isFree hfree)
    dispatched := h.dispatched
    claimed := ?_
    open_claim := ?_
    distinct_calls := h.distinct_calls
    once := fun id => by
      rw [Journal.executions_cons_of_none hx]
      exact h.once id
    successful := ?_ }
  · rw [hm, h.operations, hwr, List.map_map]
    exact List.map_congr_left fun o' _ => (o'.after_append _ _).symm
  · intro w' hw'
    rw [hwr, List.mem_append, List.mem_singleton] at hw'
    rcases hw' with hw' | rfl
    · exact h.known w' hw'
    · exact ⟨o, ho, hid⟩
  · intro o' ho'
    by_cases heq : w.id = o'.id
    · obtain rfl : o = o' := h.eq_of_id_eq ho ho' (hid.trans heq)
      rw [hid, hself, ← hid]
      exact hpath
    · rw [hother _ heq]
      exact h.paths o' ho'
  · intro c hc
    by_cases heq : w.id = c.operation.id
    · rw [← heq, hself]
      simp
    · rw [hother _ heq]
      exact h.claimed c hc
  · intro c hc hopen
    have heq : w.id ≠ c.operation.id := fun heq => by
      rw [hover c hc heq.symm] at hopen
      cases hopen
    rw [hother _ heq]
    exact h.open_claim c hc hopen
  · intro id hs
    by_cases heq : w.id = id
    · subst heq
      rw [hself, List.mem_append, List.mem_singleton] at hs
      rcases hs with hs | hs
      · exact h.successful _ hs
      · exact hsucc hs.symm
    · rw [hother _ heq] at hs
      exact h.successful id hs

/-- A call for an operation that is claimed and has none yet. -/
lemma spawn {t : TypedOperation} {hd : Handler} {o : Operation}
    (hst : j.statuses t.id = [.executing]) (ho : o ∈ ops)
    (hdis : Dispatched table o t hd)
    (hnew : ∀ c ∈ calls, c.operation.id ≠ t.id) :
    Ledger table base ops m j phases
      (calls ++ [{ handler := hd, operation := t }]) := by
  have hmem : ∀ {P : HandlerCall → Prop}, (∀ c ∈ calls, P c) →
      P { handler := hd, operation := t } →
      ∀ c ∈ calls ++ [{ handler := hd, operation := t }], P c := by
    intro P hall hP c hc
    rcases List.mem_append.1 hc with hc | hc
    · exact hall c hc
    · exact List.mem_singleton.1 hc ▸ hP
  exact {
    h with
    holds := fun ph hph => (h.holds ph hph).append_calls _
    dispatched := hmem h.dispatched ⟨o, ho, hdis⟩
    claimed := hmem h.claimed (by simp [hst])
    open_claim := hmem h.open_claim fun _ => hst
    distinct_calls := by
      rw [List.map_append, List.nodup_append]
      refine ⟨h.distinct_calls, List.nodup_singleton _, ?_⟩
      intro a ha b hb hab
      obtain ⟨c, hc, rfl⟩ := List.mem_map.1 ha
      rw [List.map_singleton, List.mem_singleton] at hb
      exact hnew c hc (hab.trans hb)
    once := fun id => by
      have := h.once id
      simp only [List.countP_append, List.countP_singleton]
      by_cases hid : t.id = id <;> simp [hid] <;> omega
    successful := fun id hs => by
      obtain ⟨c, hc, hr⟩ := h.successful id hs
      exact ⟨c, List.mem_append_left _ hc, hr⟩ }

/-- A call that is not over goes on or ends. -/
lemma setCall {n : Nat} {c c' : HandlerCall} (hn : calls[n]? = some c)
    (hopen : c.isOver = false) (hop : c'.operation = c.operation)
    (hhd : c'.handler = c.handler) (hph : c'.phase ≠ .spawned) :
    Ledger table base ops m j phases (calls.set n c') := by
  obtain ⟨hlt, hget⟩ := List.getElem?_eq_some_iff.1 hn
  have hc : c ∈ calls := hget ▸ List.getElem_mem hlt
  exact {
    h with
    holds := fun ph hph => (h.holds ph hph).set_call hn hopen hop
    dispatched := forall_mem_set h.dispatched (by
      rw [hop, hhd]
      exact h.dispatched c hc) n
    claimed :=
      forall_mem_set h.claimed (by rw [hop]; exact h.claimed c hc) n
    open_claim := forall_mem_set h.open_claim (fun _ => by
      rw [hop]
      exact h.open_claim c hc hopen) n
    distinct_calls := by
      rw [map_set_of_eq hn (by rw [hop])]
      exact h.distinct_calls
    once := fun id => by
      have h₁ := h.once id
      have h₂ := spawned_set hn hph id
      rw [countFor_set hn hop]
      omega
    successful := fun id hs => by
      obtain ⟨c₀, hc₀, hid, hr⟩ := h.successful id hs
      obtain ⟨k, hk⟩ := List.mem_iff_getElem?.1 hc₀
      have hne : n ≠ k := by
        rintro rfl
        obtain rfl : c = c₀ := Option.some.inj (hn.symm.trans hk)
        simp [HandlerCall.isOver, HandlerCall.result?, hr] at hopen
      refine ⟨c₀, List.mem_iff_getElem?.2 ⟨k, ?_⟩, hid, hr⟩
      rw [List.getElem?_set_ne hne, hk] }

/-- A call runs: its handler is called. -/
lemma beginCall {n : Nat} {c c' : HandlerCall} {e : Entry}
    (hn : calls[n]? = some c) (hc : c.phase = .spawned)
    (hop : c'.operation = c.operation) (hhd : c'.handler = c.handler)
    (hph : c'.phase ≠ .spawned)
    (he : e.event = .execute c.handler c.operation) :
    Ledger table base ops m (e :: j) phases (calls.set n c') := by
  have hopen : c.isOver = false := by
    rw [HandlerCall.isOver, HandlerCall.result?, hc]
    rfl
  have hset := h.setCall hn hopen hop hhd hph
  obtain ⟨hlt, hget⟩ := List.getElem?_eq_some_iff.1 hn
  have hst : j.statuses c.operation.id = [.executing] :=
    h.open_claim c (hget ▸ List.getElem_mem hlt) hopen
  have hwn : e.event.write? = none := by rw [he]; rfl
  have hs : ∀ id, Journal.statuses id (e :: j) = j.statuses id :=
    Journal.statuses_cons_of_none hwn
  have hwr : Journal.written (e :: j) = j.written :=
    Journal.written_cons_of_none hwn
  exact {
    hset with
    operations := by rw [hwr]; exact h.operations
    writes := by rw [hwr]; exact h.writes
    known := by rw [hwr]; exact h.known
    paths := fun o ho => by rw [hs]; exact h.paths o ho
    guarded := h.guarded.cons fun hd t ht => by
      rw [he, Event.execute.injEq] at ht
      rw [← ht.2]
      exact hst
    holds := fun ph hph => (hset.holds ph hph).congr hs
    claimed := fun c hc => by rw [hs]; exact hset.claimed c hc
    open_claim := fun c hc ho => by rw [hs]; exact hset.open_claim c hc ho
    once := fun id => by
      have h₁ := h.once id
      have h₂ := spawned_set hn hph id
      rw [countFor_set hn hop, Journal.executions_cons, he]
      simp only [Event.executed?, Option.some.injEq]
      by_cases hid : c.operation.id = id
      · simp only [hid, hc, decide_true, Bool.and_true, if_true] at h₂ ⊢
        omega
      · simp only [hid, if_false]
        omega
    successful := fun id => by rw [hs]; exact hset.successful id }

/-- A loop is started when all loops before it have exited. -/
lemma start (hall : ∀ phase ∈ phases, phase = .exited) :
    Ledger table base ops m j (phases ++ [.spawned]) calls :=
  { h with
    single := earlierExited_append hall .spawned
    holds := fun ph hph => by
      rcases List.mem_append.1 hph with hph | hph
      · exact h.holds ph hph
      · rw [List.mem_singleton.1 hph]
        trivial }

/-- An operation is issued under a new identifier. -/
lemma push {o : Operation} (hnew : ∀ o' ∈ ops, o'.id ≠ o.id)
    (ho : m'.operations = m.operations ++ [o])
    (hw : m'.writes = m.writes) :
    Ledger table base (ops ++ [o]) m' j phases calls := by
  have hnil : j.statuses o.id = [] := by
    by_contra hne
    obtain ⟨st, hst⟩ := List.exists_mem_of_ne_nil _ hne
    obtain ⟨w, hw', -⟩ := List.mem_map.1 hst
    obtain ⟨hmem, hid⟩ := List.mem_filter.1 hw'
    obtain ⟨o', ho', ho'w⟩ := h.known w hmem
    exact hnew o' ho' (ho'w.trans (of_decide_eq_true hid))
  exact {
    h with
    distinct := by
      rw [List.map_append, List.nodup_append]
      refine ⟨h.distinct, List.nodup_singleton _, ?_⟩
      intro a ha b hb hab
      obtain ⟨o', ho', rfl⟩ := List.mem_map.1 ha
      rw [List.map_singleton, List.mem_singleton] at hb
      exact hnew o' ho' (hab.trans hb)
    operations := by
      rw [ho, h.operations, List.map_append, List.map_singleton,
        Operation.after_of_statuses_eq_nil hnil]
    writes := by rw [hw, h.writes]
    known := fun w hw => by
      obtain ⟨o', ho', hid⟩ := h.known w hw
      exact ⟨o', List.mem_append_left _ ho', hid⟩
    paths := fun o' ho' => by
      rcases List.mem_append.1 ho' with ho' | ho'
      · exact h.paths o' ho'
      · rw [List.mem_singleton.1 ho', hnil]
        exact .untouched
    holds := fun ph hph => (h.holds ph hph).append_ops _
    dispatched := fun c hc => by
      obtain ⟨o', ho', hd⟩ := h.dispatched c hc
      exact ⟨o', List.mem_append_left _ ho', hd⟩ }

end Ledger

end RemoteOps
