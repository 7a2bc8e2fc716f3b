/-
What a worker writes to a platform in memory, and which handlers it
calls, over a whole run.

A run begins with a new worker on any platform.  In any order its tasks
take their steps, callers start, stop and abort it, further operations
are issued, and the platform is told to fail; only the worker writes.
There is one loop at a time.

* `WorkerSystem.Reaches`: the states of such runs;
* `writeProtocol_of_reaches`: each operation is claimed, executed and
  reported at most once and in this order.
-/
import RemoteOps.Proofs.Worker.Tracked

namespace RemoteOps

variable {τ : Type} {H : Host τ} {m : MemoryPlatform}
  {table : HandlerTable} {interval : Span} {ops : List Operation}
  {s : WorkerSystem (MemoryPlatform × τ)}

/-! ### Runs with one writer -/

/-- The states that a new worker comes to on a platform in memory, with
the operations that were issued until then. -/
inductive WorkerSystem.Reaches (H : Host τ) (m : MemoryPlatform)
    (table : HandlerTable) (interval : Span) :
    List Operation → WorkerSystem (MemoryPlatform × τ) → Prop where
  | new (now : Nat) (x : τ) :
    Reaches H m table interval m.operations
      { site := { now, world := (m, x) }
        worker := .new table interval }
  | move {ops : List Operation} {s s' : WorkerSystem (MemoryPlatform × τ)}
    (h : Reaches H m table interval ops s)
    (hm : Move H.platform IsResting s s') :
    Reaches H m table interval ops s'
  /-- Others do with the platform what they want, except that they leave
  operations and record alone. -/
  | outside {ops : List Operation}
    {s : WorkerSystem (MemoryPlatform × τ)} {m' : MemoryPlatform} (x : τ)
    (h : Reaches H m table interval ops s)
    (ho : m'.operations = s.site.world.1.operations)
    (hw : m'.writes = s.site.world.1.writes) :
    Reaches H m table interval ops
      { s with site := { s.site with world := (m', x) } }
  /-- Others issue an operation under a new identifier. -/
  | push {ops : List Operation} {s : WorkerSystem (MemoryPlatform × τ)}
    {o : Operation} (h : Reaches H m table interval ops s)
    (hnew : ∀ o' ∈ ops, o'.id ≠ o.id) :
    Reaches H m table interval (ops ++ [o])
      { s with site := { s.site with
          world := (s.site.world.1.push o, s.site.world.2) } }

/-- A run of the tasks goes on with a run. -/
lemma WorkerSystem.Reaches.runs
    {s' : WorkerSystem (MemoryPlatform × τ)}
    (h : Reaches H m table interval ops s)
    (hr : (machine H.platform).Runs s s') :
    Reaches H m table interval ops s' := by
  induction hr with
  | refl => exact h
  | tail _ hs ih => exact ih.move (.step hs)

/-- A new worker has nothing on its ledger. -/
lemma tracked_new (hd : (m.operations.map (·.id)).Nodup) (now : Nat)
    (x : τ) : Tracked table m.writes m.operations
      ({ now, world := (m, x) } : Site (MemoryPlatform × τ))
      (.new table interval) := by
  refine ⟨rfl, ?_⟩
  exact {
    distinct := hd
    operations := by simp
    writes := by simp
    known := fun w hw => by simp at hw
    paths := fun o _ => .untouched
    guarded := Journal.guarded_nil
    single := fun i hi => by simp at hi
    holds := fun ph hph => by simp at hph
    dispatched := fun c hc => by simp at hc
    claimed := fun c hc => by simp at hc
    open_claim := fun c hc => by simp at hc
    distinct_calls := by simp
    once := fun id => by simp [Journal.executions]
    successful := fun id hs => by
      simp [Journal.statuses] at hs }

/-- Whatever happens, the worker stays on its ledger. -/
theorem tracked_of_reaches (hd : (m.operations.map (·.id)).Nodup)
    (h : WorkerSystem.Reaches H m table interval ops s) :
    Tracked table m.writes ops s.site s.worker := by
  induction h with
  | new now x => exact tracked_new hd now x
  | move _ hm ih => exact ih.move hm
  | outside _ _ ho hw ih => exact ⟨ih.1, ih.2.memory ho hw⟩
  | push _ hnew ih => exact ⟨ih.1, ih.2.push hnew rfl rfl⟩

/-! ### The protocol of one operation -/

/-- The statuses that are recorded for an operation, in all. -/
lemma Path.isPrefix {kinds : List String} {o : Operation}
    {l : List Status} (h : Path kinds o l) :
    l <+: [.executing, .successful] ∨ l <+: [.executing, .failed]
      ∨ l <+: [.failed] := by
  cases h with
  | untouched => exact .inl (List.nil_prefix)
  | rejected => exact .inr (.inr (List.prefix_refl _))
  | claimed => exact .inl ⟨[.successful], rfl⟩
  | @concluded status _ _ ht =>
    cases status with
    | successful => exact .inl (List.prefix_refl _)
    | failed => exact .inr (.inl (List.prefix_refl _))
    | pending | executing => cases ht

namespace Ledger

variable {base : List StatusWrite} {j : Journal}
  {phases : List LoopPhase} {calls : List HandlerCall}
  (h : Ledger table base ops m j phases calls)

include h

/-- No handler is called twice for an operation. -/
lemma executions_le_one (id : String) : j.executions id ≤ 1 := by
  have hcount : calls.countP (fun c => c.operation.id = id)
      = (calls.map (·.operation.id)).count id := by
    rw [List.count, List.countP_map]
    rfl
  have hle := List.nodup_iff_count_le_one.1 h.distinct_calls id
  have honce := h.once id
  omega

/-- Without a call of the loop no handler is called. -/
lemma executions_eq_zero {id : String}
    (hno : ∀ c ∈ calls, c.operation.id ≠ id) : j.executions id = 0 := by
  have hcount : calls.countP (fun c => c.operation.id = id) = 0 :=
    List.countP_eq_zero.2 fun c hc => by simpa using hno c hc
  have honce := h.once id
  omega

/-- A call is for the operation of its identifier. -/
lemma dispatched_of_id_eq {c : HandlerCall} (hc : c ∈ calls)
    {o : Operation} (ho : o ∈ ops) (hid : c.operation.id = o.id) :
    Dispatched table o c.operation c.handler := by
  obtain ⟨o', ho', hdis⟩ := h.dispatched c hc
  obtain rfl : o' = o :=
    h.eq_of_id_eq ho' ho (hdis.id_eq.symm.trans hid)
  exact hdis

end Ledger

/-- What a run makes of an operation that was issued. -/
structure WriteProtocol (table : HandlerTable) (j : Journal) (w : Worker)
    (o : Operation) : Prop where
  /-- It is claimed and then reported, or it is failed right away. -/
  order : j.statuses o.id <+: [.executing, .successful]
    ∨ j.statuses o.id <+: [.executing, .failed]
    ∨ j.statuses o.id <+: [.failed]
  /-- It is failed right away only if it cannot be converted, and then no
  handler is called. -/
  rejected : j.statuses o.id = [.failed] →
    Matching.convert? o table.supportedKinds = none
      ∧ j.executions o.id = 0
  /-- It is successful only if the owner of its kind, called for it,
  returned that. -/
  successful : .successful ∈ j.statuses o.id → ∃ c ∈ w.calls,
    Dispatched table o c.operation c.handler
      ∧ c.phase = .ended (some (.returned .successful))
  /-- A handler is called for it at most once, after the claim. -/
  once : j.executions o.id ≤ 1
  claimed : j.executions o.id ≠ 0 →
    [.executing] <+: j.statuses o.id
  /-- Unless it was issued as pending, it is left alone. -/
  ignored : o.status ≠ .pending →
    j.statuses o.id = [] ∧ j.executions o.id = 0

/-- The ledger bears out the protocol of every operation. -/
lemma Tracked.writeProtocol {base : List StatusWrite}
    {s : Site (MemoryPlatform × τ)} {w : Worker}
    (h : Tracked table base ops s w) {o : Operation} (ho : o ∈ ops) :
    WriteProtocol table s.journal w o := by
  obtain ⟨-, h⟩ := h
  have hpath := h.paths o ho
  -- a call for the operation shows that it was converted
  have hcall : ∀ c ∈ w.cores, c.operation.id = o.id →
      Dispatched table o c.operation c.handler := fun c hc =>
    h.dispatched_of_id_eq hc ho
  refine {
    order := hpath.isPrefix
    rejected := fun hst => ?_
    successful := fun hst => ?_
    once := h.executions_le_one o.id
    claimed := fun hne => ?_
    ignored := fun hp => ?_ }
  · rw [hst] at hpath
    cases hpath with
    | rejected hp hc =>
      refine ⟨hc, h.executions_eq_zero fun c hmem hid => ?_⟩
      have hsome := (hcall c hmem hid).isSome
      rw [hc] at hsome
      cases hsome
  · obtain ⟨c, hc, hid, hended⟩ := h.successful o.id hst
    have hdis := hcall c hc hid
    obtain ⟨c₀, hc₀, rfl⟩ := List.mem_map.1 hc
    exact ⟨c₀, hc₀, hdis, hended⟩
  · have hex : ∃ c ∈ w.cores, c.operation.id = o.id := by
      by_contra hno
      push Not at hno
      exact hne (h.executions_eq_zero hno)
    obtain ⟨c, hc, hid⟩ := hex
    have hsome := (hcall c hc hid).isSome
    have hst := hid ▸ h.claimed c hc
    generalize s.journal.statuses o.id = l at hpath hst
    cases hpath with
    | untouched => exact absurd rfl hst
    | rejected _ hc => rw [hc] at hsome; cases hsome
    | claimed => exact List.prefix_refl _
    | concluded => exact ⟨_, rfl⟩
  · have hnil : s.journal.statuses o.id = [] := by
      by_contra hne
      exact hp (hpath.pending hne)
    exact ⟨hnil, h.executions_eq_zero (h.no_call hnil)⟩

/-- In every run with one writer, what is recorded beyond the record that
the platform began with are the writes of the journal; all of them are
for operations that were issued, each of which follows the protocol, and
a handler is called when the claim of its operation is recorded and
nothing further. -/
theorem writeProtocol_of_reaches (hd : (m.operations.map (·.id)).Nodup)
    (h : WorkerSystem.Reaches H m table interval ops s) :
    s.site.world.1.writes = m.writes ++ s.site.journal.written
      ∧ s.site.world.1.operations = ops.map (·.after s.site.journal.written)
      ∧ (∀ w ∈ s.site.journal.written, ∃ o ∈ ops, o.id = w.id)
      ∧ s.site.journal.Guarded
      ∧ ∀ o ∈ ops, WriteProtocol table s.site.journal s.worker o := by
  have ht := tracked_of_reaches hd h
  exact ⟨ht.2.writes, ht.2.operations, ht.2.known, ht.2.guarded,
    fun o ho => ht.writeProtocol ho⟩

/-- A worker with one handler that is started and then goes on until it
has nothing to do. -/
def settledWorker (h : Handler) (l : List Operation) :
    WorkerSystem (MemoryPlatform × Unit) :=
  let s : WorkerSystem (MemoryPlatform × Unit) := {
    site := { world := ({ operations := l }, ()) }
    worker := .new (.ofRegistrations [⟨h, h.kinds⟩]) (.ofMillis 100) }
  (WorkerSystem.machine Host.prompt.platform).settle 40
    (s.start?.getD s)

/-- A pending restart is claimed, executed and reported, and one that is
executing already is left alone. -/
theorem writeProtocol_settledWorker :
    let h : Handler := { uid := 0, name := "restart", kinds := [Kind.restart] }
    let restart (id : String) :=
      (Operation.new id).withFragment Kind.restart (.object [])
    let l := [restart "1", (restart "2").withStatus .executing]
    let s := settledWorker h l
    (l.map (·.id)).Nodup
      ∧ WorkerSystem.Reaches Host.prompt { operations := l }
        (.ofRegistrations [⟨h, h.kinds⟩]) (.ofMillis 100) l s
      ∧ s.site.world.1.writes
        = [⟨"1", .executing, none⟩, ⟨"1", .successful, none⟩]
      ∧ ∀ o ∈ l, WriteProtocol (.ofRegistrations [⟨h, h.kinds⟩])
        s.site.journal s.worker o := by
  intro h restart l s
  have hd : (l.map (·.id)).Nodup := by decide
  have hr : WorkerSystem.Reaches Host.prompt { operations := l }
      (.ofRegistrations [⟨h, h.kinds⟩]) (.ofMillis 100) l s := by
    refine WorkerSystem.Reaches.runs ?_ (Machine.settle_runs 40 _)
    refine (WorkerSystem.Reaches.new 0 ()).move (.start ?_ rfl)
    exact fun l hl => by cases hl
  exact ⟨hd, hr, by decide +kernel,
    (writeProtocol_of_reaches hd hr).2.2.2.2⟩

end RemoteOps
