/-
How a startup settles an operation that a worker has left executing,
compared with the kind under which the worker dispatched it.

The worker takes the one fragment that names a supported kind.  The
passes of a startup only ask whether a well-known fragment is there, the
restart first, and do not know which kinds are supported.

* `recoveredAs_settle_iff`: for which operations the two agree;
* `recovery_iff`: a startup after any run of a worker.
-/
import RemoteOps.Proofs.Service.Reconciliation
import RemoteOps.Proofs.Worker.WriteProtocol

namespace RemoteOps

/-! ### One operation -/

/-- An executing operation of a kind is settled by the rule of this kind:
a restart has succeeded, an update has succeeded exactly if its software
is installed, and any other kind is left alone. -/
def RecoveredAs (kind : String) (installed : List InstalledSoftware)
    (o o' : Operation) : Prop :=
  if kind = Kind.restart then o' = o.succeeded
  else if kind = Kind.softwareList then
    if isUpToDate installed o then o' = o.succeeded
    else ∃ reason, o' = o.failedFor reason
  else o' = o

/-- The fragments of an operation leave no doubt about its kind: other
than the fragment of the kind, none makes a pass take the operation and
come to another result. -/
def IsUnmistakable (kind : String) (installed : List InstalledSoftware)
    (o : Operation) : Prop :=
  kind = Kind.restart
    ∨ kind = Kind.softwareList
      ∧ (o.hasFragment Kind.restart = false ∨ isUpToDate installed o = true)
    ∨ kind ≠ Kind.restart ∧ kind ≠ Kind.softwareList
      ∧ o.hasFragment Kind.restart = false
      ∧ o.hasFragment Kind.softwareList = false

section Settle

variable {o : Operation} {reason : Operation → String}
  {installed : List InstalledSoftware}

/-- An operation that is executing and is taken by a pass does not stay
so. -/
lemma status_settle_ne (he : o.status = .executing)
    (hfrag : o.hasFragment Kind.restart = true
      ∨ o.hasFragment Kind.softwareList = true) :
    (o.settle reason installed).status ≠ .executing := by
  rw [Operation.settle, if_neg (not_not.2 he)]
  by_cases hr : o.hasFragment Kind.restart = true
  · rw [if_pos hr]
    exact Status.noConfusion
  · rw [if_neg hr, if_pos (hfrag.resolve_left hr)]
    split <;> exact Status.noConfusion

/-- For which operations settling agrees with the rule of a kind that
they carry. -/
theorem recoveredAs_settle_iff {kind : String}
    (he : o.status = .executing) (hk : o.hasFragment kind = true) :
    RecoveredAs kind installed o (o.settle reason installed)
      ↔ IsUnmistakable kind installed o := by
  have hne : Kind.softwareList ≠ Kind.restart := by decide
  by_cases hrestart : kind = Kind.restart
  · subst hrestart
    rw [RecoveredAs, if_pos rfl, Operation.settle, if_neg (not_not.2 he),
      if_pos hk]
    exact iff_of_true rfl (.inl rfl)
  by_cases hsoftware : kind = Kind.softwareList
  · subst hsoftware
    rw [RecoveredAs, if_neg hne, if_pos rfl]
    have hgoal : IsUnmistakable Kind.softwareList installed o
        ↔ o.hasFragment Kind.restart = false
          ∨ isUpToDate installed o = true := by
      simp [IsUnmistakable, hne]
    rw [hgoal, Operation.settle, if_neg (not_not.2 he)]
    by_cases hr : o.hasFragment Kind.restart = true
    · by_cases hup : isUpToDate installed o = true
      · simp [hr, hup]
      · -- settled as a restart, although the update has failed
        rw [if_pos hr, if_neg hup]
        refine iff_of_false ?_ (by simp [hr, hup])
        rintro ⟨r, h⟩
        exact Status.noConfusion (congrArg Operation.status h)
    · rw [if_neg hr, if_pos hk]
      by_cases hup : isUpToDate installed o = true
      · simp [hup]
      · rw [if_neg hup, if_neg hup]
        exact iff_of_true ⟨reason o, rfl⟩ (.inl (by simpa using hr))
  · rw [RecoveredAs, if_neg hrestart, if_neg hsoftware]
    have hgoal : IsUnmistakable kind installed o
        ↔ o.hasFragment Kind.restart = false
          ∧ o.hasFragment Kind.softwareList = false := by
      simp [IsUnmistakable, hrestart, hsoftware]
    rw [hgoal]
    constructor
    · intro h
      have hnone : ¬ (o.hasFragment Kind.restart = true
          ∨ o.hasFragment Kind.softwareList = true) := fun hfrag =>
        status_settle_ne he hfrag (h ▸ he)
      simpa using hnone
    · rintro ⟨hr, hs⟩
      simp [Operation.settle, hr, hs]

end Settle

/-! ### A startup after a run -/

lemma Operation.id_settle (reason : Operation → String)
    (installed : List InstalledSoftware) (o : Operation) :
    (o.settle reason installed).id = o.id := by
  rw [settle]
  split
  · rfl
  · split
    · rfl
    · split
      · split <;> rfl
      · rfl

/-- What the passes make of an operation. -/
lemma MemoryPlatform.operation?_afterPass_afterPass {m : MemoryPlatform}
    (hd : (m.operations.map (·.id)).Nodup) {o : Operation}
    (ho : o ∈ m.operations) :
    ((m.afterPass .restarts).afterPass .software).operation? o.id
      = some (o.settle (Pass.updateReason m.installedSoftware)
        m.installedSoftware) := by
  have hd' : (((m.afterPass .restarts).afterPass
      .software).operations.map (·.id)).Nodup :=
    nodup_afterWrites _ (m.nodup_afterWrites hd _) _
  rw [m.afterPass_afterPass hd] at hd' ⊢
  have hfound := operation?_eq_some hd' (List.mem_map_of_mem ho)
  rwa [Operation.id_settle] at hfound

section Run

variable {τ τ' : Type} {H : Host τ} {m m₀ : MemoryPlatform}
  {table : HandlerTable} {interval : Span} {ops : List Operation}
  {s : WorkerSystem (MemoryPlatform × τ)}

/-- A call of the worker was made for the one fragment of its operation
that names a supported kind. -/
lemma matchKind?_of_reaches (hd : (m₀.operations.map (·.id)).Nodup)
    (h : WorkerSystem.Reaches H m₀ table interval ops s)
    {c : HandlerCall} (hc : c ∈ s.worker.calls) {o : Operation}
    (ho : o ∈ s.site.world.1.operations) (hid : o.id = c.operation.id) :
    Matching.matchKind? o table.supportedKinds
      = some c.operation.kind := by
  obtain ⟨-, hl⟩ := tracked_of_reaches hd h
  rw [hl.operations] at ho
  obtain ⟨o₀, ho₀, rfl⟩ := List.mem_map.1 ho
  rw [Operation.id_after] at hid
  have hdis : Dispatched table o₀ c.operation c.handler :=
    hl.dispatched_of_id_eq (List.mem_map_of_mem hc) ho₀ hid.symm
  obtain ⟨t₀, ht₀, ht⟩ := hdis.converted
  have hnames : (o₀.after s.site.journal.written).fragmentNames
      = o₀.fragmentNames := by
    rw [Operation.fragmentNames, Operation.fragments_after]
    rfl
  rw [ht, TypedOperation.kind_claimed, Matching.matchKind?, hnames]
  exact (Matching.convert?_eq_some ht₀).1

/-- A startup on the platform that a worker leaves behind, whatever its
run was: of every operation that the worker dispatched and left
executing, it makes what the rule of the kind says, under which it was
dispatched, exactly if the fragments of the operation leave no doubt
about this kind. -/
theorem recovery_iff (hd : (m₀.operations.map (·.id)).Nodup)
    (h : WorkerSystem.Reaches H m₀ table interval ops s)
    (hm : s.site.world.1 = m) (hq : m.failQueries = false)
    (hf : m.failingWrites = 0) {config : Config}
    (hv : config.validate = .ok ()) (H' : Host τ')
    {site : Site (MemoryPlatform × τ')} {x : τ'}
    (hsite : site.world = (m, x)) (hasInventory : Bool)
    (candidates : List Handler) :
    let sv : Service := { config, hasInventory, candidates }
    ∃ site' : Site (MemoryPlatform × τ'),
      let s' := ServiceSystem.alone (Startup.verify H'.platform site'
        { sv with begun := true })
      (ServiceSystem.machine H'.platform).Leads
          (ServiceSystem.start H'.platform { site, service := sv }) s'
        ∧ ∀ c ∈ s.worker.calls, ∀ o ∈ m.operations,
          o.id = c.operation.id → o.status = .executing →
          Matching.matchKind? o table.supportedKinds
              = some c.operation.kind
            ∧ ∃ o', s'.site.world.1.operation? o.id = some o'
              ∧ (RecoveredAs c.operation.kind m.installedSoftware o o'
                ↔ IsUnmistakable c.operation.kind m.installedSoftware
                  o) := by
  intro sv
  subst hm
  have hids := (tracked_of_reaches hd h).2.nodup_operations
  obtain ⟨site', hl, hw⟩ := ServiceSystem.leads_passes (H := H') hv hq hf
    hids hsite hasInventory candidates
  refine ⟨site', hl, fun c hc o ho hid he => ?_⟩
  have hk := matchKind?_of_reaches hd h hc ho hid
  have hfrag : o.hasFragment c.operation.kind = true :=
    Dict.contains_eq_true_iff.2 (Matching.mem_of_matchKind? hk).2
  have hfound := MemoryPlatform.operation?_afterPass_afterPass hids ho
  exact ⟨hk, _, by rw [hw, hfound], recoveredAs_settle_iff he hfrag⟩

end Run

/-! ### An update that is taken for a restart -/

/-- Surroundings where every handler takes a second. -/
def Host.slow : Host Unit where
  delay _ _ := 0
  execute _ _ _ := ({ delay := 1000 }, ())

/-- A handler of updates. -/
def updater : Handler where
  uid := 0
  name := "updater"
  kinds := [Kind.softwareList]

/-- An update to a version that is not installed, with a fragment that
names no supported kind. -/
def mixedUpdate : Operation :=
  let entry : Json :=
    .object [("name", .string "agent"), ("version", .string "2")]
  ((Operation.new "1").withFragment Kind.softwareList
    (.array [entry])).withFragment Kind.restart .null

/-- The platform on which it was issued. -/
def mixedPlatform : MemoryPlatform where
  operations := [mixedUpdate]
  installedSoftware := [⟨"agent", "1"⟩]

/-- A worker that is aborted while its handler is at work. -/
def abortedWorker : WorkerSystem (MemoryPlatform × Unit) :=
  let go := (WorkerSystem.machine Host.slow.platform).settle 40
  let s : WorkerSystem (MemoryPlatform × Unit) := {
    site := { world := (mixedPlatform, ()) }
    worker := .new (.ofRegistrations [⟨updater, updater.kinds⟩])
      (.ofMillis 100) }
  go (go (s.start?.getD s)).abort

lemma reaches_abortedWorker :
    WorkerSystem.Reaches Host.slow mixedPlatform
      (.ofRegistrations [⟨updater, updater.kinds⟩]) (.ofMillis 100)
      mixedPlatform.operations abortedWorker := by
  refine WorkerSystem.Reaches.runs ?_ (Machine.settle_runs 40 _)
  refine WorkerSystem.Reaches.move ?_ (.abort _)
  refine WorkerSystem.Reaches.runs ?_ (Machine.settle_runs 40 _)
  refine (WorkerSystem.Reaches.new 0 ()).move (.start ?_ rfl)
  exact fun l hl => by cases hl

/-- The update is not settled as one. -/
theorem not_recoveredAs_mixedUpdate :
    let o := { mixedUpdate with status := .executing }
    let s : ServiceSystem (MemoryPlatform × Unit) := {
      site := { world := abortedWorker.site.world }
      service := { config := {}, candidates := [updater] } }
    (mixedPlatform.operations.map (·.id)).Nodup
      ∧ abortedWorker.site.world.1.operations = [o]
      ∧ Matching.matchKind? o updater.kinds = some Kind.softwareList
      ∧ ∃ s' o', (ServiceSystem.machine Host.slow.platform).Leads
          (ServiceSystem.start Host.slow.platform s) s'
        ∧ s'.site.world.1.operation? "1" = some o'
        ∧ ¬ RecoveredAs Kind.softwareList
          abortedWorker.site.world.1.installedSoftware o o' := by
  intro o s
  have hd : (mixedPlatform.operations.map (·.id)).Nodup := by decide
  have hops : abortedWorker.site.world.1.operations = [o] := by
    decide +kernel
  have hq : abortedWorker.site.world.1.failQueries = false
      ∧ abortedWorker.site.world.1.failingWrites = 0 := by
    decide +kernel
  obtain ⟨c, hc, hkind, hid⟩ : ∃ c ∈ abortedWorker.worker.calls,
      c.operation.kind = Kind.softwareList ∧ c.operation.id = "1" := by
    decide +kernel
  have hv : ({} : Config).validate = .ok () := by decide
  have hsite : s.site.world = (abortedWorker.site.world.1, ()) := rfl
  obtain ⟨site', hl, hrec⟩ := recovery_iff hd reaches_abortedWorker rfl
    hq.1 hq.2 hv Host.slow hsite true [updater]
  have ho : o ∈ abortedWorker.site.world.1.operations := by
    rw [hops]
    exact List.mem_singleton_self o
  obtain ⟨hmatch, o', ho', hiff⟩ := hrec c hc o ho hid.symm rfl
  rw [hkind] at hmatch hiff
  refine ⟨hd, hops, by decide, _, o', hl, ho', fun hrecovered => ?_⟩
  have hup : isUpToDate abortedWorker.site.world.1.installedSoftware o
      = false := by
    decide +kernel
  rcases hiff.1 hrecovered with h | ⟨-, h | h⟩ | ⟨-, h, -⟩
  · exact absurd h (by decide)
  · exact absurd h (by decide)
  · rw [hup] at h
    cases h
  · exact absurd rfl h

end RemoteOps
