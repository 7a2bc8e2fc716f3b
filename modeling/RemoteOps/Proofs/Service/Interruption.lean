/-
The passes of a startup on a platform of which any call may fail.

A call of a pass that fails ends the startup.  What it has written until
then are the first of the writes that it was to make.

* `ServiceSystem.Stretch`: a stretch of a startup makes its writes, or
  fails after the first of them;
* `ServiceSystem.stretch_pages`, `ServiceSystem.stretch_settleNext`: the
  queries of a pass and its writes are such stretches;
* `ServiceSystem.stretch_passes`: so are the passes of a startup.
-/
import RemoteOps.Proofs.Platform.Faulty
import RemoteOps.Proofs.Service.Reconciliation
import RemoteOps.Proofs.Service.Settlements

namespace RemoteOps

/-! ### Calls of the platform -/

namespace MemoryPlatform

/-- Two platforms have the same operations, record and software. -/
structure Agrees (m m' : MemoryPlatform) : Prop where
  operations : m'.operations = m.operations
  writes : m'.writes = m.writes
  software : m'.installedSoftware = m.installedSoftware

variable {m m' m'' : MemoryPlatform} {o : Operation}

lemma Agrees.refl (m : MemoryPlatform) : Agrees m m := ⟨rfl, rfl, rfl⟩

lemma Agrees.trans (h : Agrees m m') (h' : Agrees m' m'') :
    Agrees m m'' :=
  ⟨h'.operations.trans h.operations, h'.writes.trans h.writes,
    h'.software.trans h.software⟩

/-- The same writes lead to the same. -/
lemma Agrees.afterWrites (h : Agrees m m') (ws : List StatusWrite) :
    Agrees (m.afterWrites ws) (m'.afterWrites ws) where
  operations := by
    show m'.operations.map _ = m.operations.map _
    rw [h.operations]
  writes := by
    show m'.writes ++ ws = m.writes ++ ws
    rw [h.writes]
  software := h.software

lemma query_ok {kind : String} {status : Status} {size page : Nat}
    {batch : OperationPage} (hs : 0 < size)
    (h : (m.query kind status size page).1 = .ok batch) :
    batch = ServiceSystem.pageOf (m.matching kind status) size page := by
  cases hq : m.failQueries with
  | true =>
    rw [query, hq] at h
    cases h
  | false =>
    rw [m.query_eq hq hs] at h
    exact (Except.ok.inj h).symm

lemma update_ok (hd : (m.operations.map (·.id)).Nodup)
    (ho : ∃ o₀ ∈ m.operations, o₀.id = o.id ∧ o₀.fragments = o.fragments)
    (h : (m.update o).1 = .ok ()) :
    (m.update o).2 = m.afterWrites [o.record] := by
  by_cases hf : m.failingWrites = 0
  · rw [m.update_eq hf hd ho]
  · rw [update, write, if_pos hf] at h
    cases h

lemma update_error {e : Failure} (h : (m.update o).1 = .error e) :
    m.Agrees (m.update o).2 := by
  have hm := write_error (Prod.ext h rfl)
  refine ⟨hm.1, hm.2, ?_⟩
  rw [update, write]
  split
  · rfl
  · split <;> rfl

end MemoryPlatform

namespace Faults

variable {τ : Type} {F : Faults τ} {m : MemoryPlatform}
  {site : Site (MemoryPlatform × τ)}

/-- A query fails, or it is answered with the page that is asked for. -/
lemma query_cases (hm : site.world.1 = m) {size : Nat} (hs : 0 < size)
    (kind : String) (status : Status) (page : Nat) :
    ∃ site' : Site (MemoryPlatform × τ), site'.world.1 = m
      ∧ ((∃ e, site.query F.platform kind status size page = (.error e, site')
          ∧ site.journal.Broken site'.journal)
        ∨ site.query F.platform kind status size page
            = (.ok (ServiceSystem.pageOf (m.matching kind status) size page),
              site')
          ∧ site.journal.Smooth site'.journal) := by
  set answer := F.call site.world .query
    (·.query kind status size page) with hanswer
  have hquery : site.query F.platform kind status size page
      = (answer.1, site.answered answer.2
        (.query kind status size page answer.1)) := rfl
  refine ⟨site.answered answer.2 (.query kind status size page answer.1),
    ?_, ?_⟩
  · show answer.2.1 = m
    cases hr : answer.1 with
    | error e =>
      rcases call_eq_error hr with h | ⟨-, h⟩
      · rw [h, hm]
      · rw [h, MemoryPlatform.query_keeps, hm]
    | ok batch =>
      rw [(call_eq_ok hr).2, MemoryPlatform.query_keeps, hm]
  · cases hr : answer.1 with
    | error e =>
      refine .inl ⟨e, by rw [hquery, hr], ?_⟩
      exact Journal.broken_cons rfl
    | ok batch =>
      have hbatch := MemoryPlatform.query_ok hs (call_eq_ok hr).1
      rw [hm] at hbatch
      refine .inr ⟨by rw [hquery, hr, hbatch], ?_⟩
      exact (Journal.Smooth.refl _).cons rfl

/-- A write of a whole operation fails, or it is made. -/
lemma update_cases (hm : site.world.1 = m)
    (hd : (m.operations.map (·.id)).Nodup) {o : Operation}
    (ho : ∃ o₀ ∈ m.operations, o₀.id = o.id ∧ o₀.fragments = o.fragments) :
    ∃ site' : Site (MemoryPlatform × τ),
      (∃ e, site.update F.platform o = (.error e, site')
          ∧ m.Agrees site'.world.1 ∧ site.journal.Broken site'.journal)
        ∨ site.update F.platform o = (.ok (), site')
          ∧ site'.world.1 = m.afterWrites [o.record]
          ∧ site.journal.Smooth site'.journal := by
  set answer := F.call site.world .update (·.update o) with hanswer
  have hupdate : site.update F.platform o
      = (answer.1, site.answered answer.2 (.update o answer.1)) := rfl
  refine ⟨site.answered answer.2 (.update o answer.1), ?_⟩
  cases hr : answer.1 with
  | error e =>
    refine .inl ⟨e, by rw [hupdate, hr], ?_, Journal.broken_cons rfl⟩
    show m.Agrees answer.2.1
    rcases call_eq_error hr with h | ⟨hfail, h⟩
    · rw [h, hm]
      exact .refl m
    · rw [hm] at hfail
      rw [h, hm]
      exact MemoryPlatform.update_error hfail
  | ok u =>
    obtain ⟨hok, hkept⟩ := call_eq_ok hr
    rw [hm] at hok hkept
    exact .inr ⟨by rw [hupdate, hr],
      hkept.trans (MemoryPlatform.update_ok hd ho hok),
      (Journal.Smooth.refl _).cons rfl⟩

/-- The look at the installed software fails, or shows it. -/
lemma installed_cases (hm : site.world.1 = m) :
    ∃ site' : Site (MemoryPlatform × τ), site'.world.1 = m
      ∧ ((∃ e, site.installed F.platform = (.error e, site')
          ∧ site.journal.Broken site'.journal)
        ∨ site.installed F.platform = (.ok m.installedSoftware, site')
          ∧ site.journal.Smooth site'.journal) := by
  set answer := F.call site.world .installed
    (fun m => (.ok m.installedSoftware, m)) with hanswer
  have hinstalled : site.installed F.platform
      = (answer.1, site.answered answer.2 (.installed answer.1)) := rfl
  refine ⟨site.answered answer.2 (.installed answer.1), ?_, ?_⟩
  · show answer.2.1 = m
    cases hr : answer.1 with
    | error e =>
      rcases call_eq_error hr with h | ⟨-, h⟩
      · rw [h, hm]
      · rw [h, hm]
    | ok l => rw [(call_eq_ok hr).2, hm]
  · cases hr : answer.1 with
    | error e =>
      exact .inl ⟨e, by rw [hinstalled, hr], Journal.broken_cons rfl⟩
    | ok l =>
      have hl : m.installedSoftware = l := by
        rw [← hm]
        exact Except.ok.inj (call_eq_ok hr).1
      exact .inr ⟨by rw [hinstalled, hr, hl],
        (Journal.Smooth.refl _).cons rfl⟩

end Faults

namespace ServiceSystem

variable {τ : Type} {F : Faults τ} {sv : Service} {m : MemoryPlatform}
  {site : Site (MemoryPlatform × τ)} {ws : List StatusWrite}
  {c : CallState (MemoryPlatform × τ)}
  {next next' : Site (MemoryPlatform × τ) → CallState (MemoryPlatform × τ)}

/-! ### Stretches of a startup -/

/-- A stretch of a startup that is to make some writes: either no call
fails, all of them are made, and the startup goes on; or a call fails
after the first of them, and the startup with it. -/
inductive Stretch (F : Faults τ) (sv : Service) (m : MemoryPlatform)
    (ws : List StatusWrite) (site : Site (MemoryPlatform × τ))
    (c : CallState (MemoryPlatform × τ))
    (next : Site (MemoryPlatform × τ) → CallState (MemoryPlatform × τ)) :
    Prop where
  | through (site' : Site (MemoryPlatform × τ))
    (world : site'.world.1 = m.afterWrites ws)
    (smooth : site.journal.Smooth site'.journal)
    (leads : (machine F.platform).Leads (alone c) (alone (next site')))
  | failed (site' : Site (MemoryPlatform × τ)) (made : List StatusWrite)
    (pass : Pass) (cause : String) (first : made <+: ws)
    (world : (m.afterWrites made).Agrees site'.world.1)
    (broken : site.journal.Broken site'.journal)
    (leads : (machine F.platform).Leads (alone c)
      (alone (Startup.failPass site' sv pass cause)))

namespace Stretch

/-- A startup may wait before a stretch. -/
lemma of_leads {c₀ : CallState (MemoryPlatform × τ)}
    (hl : (machine F.platform).Leads (alone c₀) (alone c))
    (h : Stretch F sv m ws site c next) :
    Stretch F sv m ws site c₀ next := by
  cases h with
  | through site' hw hj hl' => exact .through site' hw hj (hl.trans hl')
  | failed site' made pass cause hf hw hj hl' =>
    exact .failed site' made pass cause hf hw hj (hl.trans hl')

/-- A stretch after some writes is one with these writes. -/
lemma after {site₀ : Site (MemoryPlatform × τ)} {ws₀ : List StatusWrite}
    (hj : site₀.journal.Smooth site.journal)
    (h : Stretch F sv (m.afterWrites ws₀) ws site c next) :
    Stretch F sv m (ws₀ ++ ws) site₀ c next := by
  cases h with
  | through site' hw hj' hl =>
    rw [m.afterWrites_append] at hw
    exact .through site' hw (hj.trans hj') hl
  | failed site' made pass cause hf hw hj' hl =>
    rw [m.afterWrites_append] at hw
    exact .failed site' (ws₀ ++ made) pass cause
      ((List.prefix_append_right_inj ws₀).2 hf) hw (hj.broken hj') hl

/-- A stretch may begin after calls that did not fail and wrote nothing. -/
lemma of_smooth {site₀ : Site (MemoryPlatform × τ)}
    (hj : site₀.journal.Smooth site.journal)
    (h : Stretch F sv m ws site c next) :
    Stretch F sv m ws site₀ c next := by
  rw [← m.afterWrites_nil] at h
  exact after hj h

/-- One stretch comes after the other. -/
lemma trans {ws' : List StatusWrite} (h : Stretch F sv m ws site c next)
    (h' : ∀ site' : Site (MemoryPlatform × τ),
      site'.world.1 = m.afterWrites ws →
      Stretch F sv (m.afterWrites ws) ws' site' (next site') next') :
    Stretch F sv m (ws ++ ws') site c next' := by
  cases h with
  | through site' hw hj hl => exact (after hj (h' site' hw)).of_leads hl
  | failed site' made pass cause hf hw hj hl =>
    exact .failed site' made pass cause
      (hf.trans (List.prefix_append ws ws')) hw hj hl

/-- A stretch goes on when its time has come. -/
lemma of_resume {u : Startup} {due : Nat} (hw : sv.worker = none)
    (hd : sv.shutdowns = []) (hu : u.due? = some due)
    (h : Stretch F sv m ws { site with now := max site.now due }
      (u.resume F.platform { site with now := max site.now due } sv) next) :
    Stretch F sv m ws site ⟨site, sv, .startup u⟩ next := by
  have hl : (machine F.platform).Leads (alone ⟨site, sv, .startup u⟩)
      (alone (u.resume F.platform
        { site with now := max site.now due } sv)) :=
    leads_startup hw hd hu
  refine of_leads hl ?_
  cases h with
  | through site' hw hj hl => exact .through site' hw hj hl
  | failed site' made pass cause hf hw hj hl =>
    exact .failed site' made pass cause hf hw hj hl

/-- A call that fails ends the startup. -/
lemma of_failure {site' : Site (MemoryPlatform × τ)} {pass : Pass}
    {cause : String} (hw : m.Agrees site'.world.1)
    (hj : site.journal.Broken site'.journal) :
    Stretch F sv m ws site (Startup.failPass site' sv pass cause) next := by
  refine .failed site' [] pass cause List.nil_prefix ?_ hj (.refl _)
  rw [m.afterWrites_nil]
  exact hw

end Stretch

/-! ### The passes -/

/-- The pages of a pass are collected, or one of them fails. -/
lemma stretch_pages (pass : Pass) (hw : sv.worker = none)
    (hd : sv.shutdowns = []) (hs : 0 < sv.config.pageSize)
    (hm : site.world.1 = m) (page due : Nat) :
    let l := m.operations.filter pass.takes
    Stretch F sv m [] site (querying site sv pass l page due)
      fun site' => Startup.settleAll F.platform site' sv l pass := by
  intro l
  -- every page leaves fewer operations
  induction hn : l.length - page * sv.config.pageSize
    using Nat.strongRecOn generalizing page site due with
  | ind n ih =>
    refine .of_resume hw hd rfl ?_
    set site₁ := { site with now := max site.now due } with hsite₁
    have hm₁ : site₁.world.1 = m := hm
    obtain ⟨site₂, hm₂, ⟨e, hquery, hj⟩ | ⟨hquery, hj⟩⟩ :=
      Faults.query_cases (F := F) hm₁ hs pass.kind .executing page
    · have hres : Startup.resume F.platform site₁ sv
          (.querying pass page (l.take (page * sv.config.pageSize)) due)
          = Startup.failPass site₂ sv pass e.message := by
        simp only [Startup.resume, hquery]
      rw [hres]
      exact .of_failure (hm₂ ▸ .refl m) hj
    · have hres : Startup.resume F.platform site₁ sv
          (.querying pass page (l.take (page * sv.config.pageSize)) due)
          = if (page + 1) * sv.config.pageSize < l.length
            then querying site₂ sv pass l (page + 1)
              (site₂.due F.platform .query)
            else Startup.settleAll F.platform site₂ sv l pass :=
        resume_page hs hquery
      rw [hres]
      refine .of_smooth hj ?_
      by_cases hlt : (page + 1) * sv.config.pageSize < l.length
      · rw [if_pos hlt]
        have hless : l.length - (page + 1) * sv.config.pageSize < n := by
          rw [Nat.add_mul, Nat.one_mul] at hlt ⊢
          omega
        exact ih _ hless hm₂ (page + 1) _ rfl
      · rw [if_neg hlt]
        refine .through site₂ ?_ (.refl _) (.refl _)
        rw [m.afterWrites_nil, hm₂]

/-- Operations that are executing are written one by one, until a write
fails. -/
lemma stretch_settleNext (pass : Pass) (hw : sv.worker = none)
    (hd : sv.shutdowns = []) (hids : (m.operations.map (·.id)).Nodup)
    (hm : site.world.1 = m) (installed : List InstalledSoftware)
    {l : List Operation} (hl : ∀ o ∈ l, o.status = .executing
      ∧ ∃ o₀ ∈ m.operations, o₀.id = o.id ∧ o₀.fragments = o.fragments) :
    Stretch F sv m (l.map fun o => (pass.settled installed o).record) site
      (Startup.settleNext F.platform site sv pass installed l)
      fun site' =>
        Startup.settleNext F.platform site' sv pass installed [] := by
  induction l generalizing m site with
  | nil =>
    refine .through site ?_ (.refl _) (.refl _)
    rw [List.map_nil, m.afterWrites_nil, hm]
  | cons o rest ih =>
    obtain ⟨he, hknown⟩ := hl o List.mem_cons_self
    set o' := pass.settled installed o with ho'
    set due := site.due F.platform .update with hdue
    have hnext : Startup.settleNext F.platform site sv pass installed
        (o :: rest)
        = ⟨site, sv, .startup (.settling pass installed o' rest due)⟩ := by
      rw [Startup.settleNext, Pass.settle?_executing he]
      rfl
    rw [hnext]
    refine .of_resume hw hd rfl ?_
    set site₁ := { site with now := max site.now due } with hsite₁
    have hm₁ : site₁.world.1 = m := hm
    obtain ⟨site₂, ⟨e, hupdate, hm₂, hj⟩ | ⟨hupdate, hm₂, hj⟩⟩ :=
      Faults.update_cases (F := F) hm₁ hids (o := o') hknown
    · have hres : Startup.resume F.platform site₁ sv
          (.settling pass installed o' rest due)
          = Startup.failPass site₂ sv pass e.message := by
        simp only [Startup.resume, hupdate]
      rw [hres]
      exact .of_failure hm₂ hj
    · set site₃ := site₂.note
        (.counted (.reconciled pass.kind o'.status)) with hsite₃
      have hres : Startup.resume F.platform site₁ sv
          (.settling pass installed o' rest due)
          = Startup.settleNext F.platform site₃ sv pass installed rest := by
        simp only [Startup.resume, hupdate]
        rfl
      rw [hres]
      -- the other operations are still there
      have hl' : ∀ a ∈ rest, a.status = .executing
          ∧ ∃ a₀ ∈ (m.afterWrites [o'.record]).operations,
            a₀.id = a.id ∧ a₀.fragments = a.fragments := by
        intro a ha
        obtain ⟨hex, a₀, ha₀, hid, hfrag⟩ := hl a (List.mem_cons_of_mem o ha)
        exact ⟨hex, a₀.after [o'.record], List.mem_map_of_mem ha₀,
          (a₀.id_after _).trans hid, (a₀.fragments_after _).trans hfrag⟩
      have hsmooth : site₁.journal.Smooth site₃.journal := hj.cons rfl
      exact .after hsmooth (ih (m.nodup_afterWrites hids _) hm₂ hl')

/-- A pass settles the operations that it takes, until a call fails. -/
lemma stretch_pass (sv : Service) (hw : sv.worker = none)
    (hd : sv.shutdowns = []) (hs : 0 < sv.config.pageSize)
    (hids : (m.operations.map (·.id)).Nodup) (hm : site.world.1 = m)
    (pass : Pass) :
    Stretch F sv m (pass.writes m.installedSoftware m.operations) site
      (Startup.beginPass F.platform site sv pass)
      fun site' => Startup.settleNext F.platform site' sv pass
        m.installedSoftware [] := by
  set l := m.operations.filter pass.takes with hldef
  have hl : ∀ o ∈ l, o.status = .executing
      ∧ ∃ o₀ ∈ m.operations, o₀.id = o.id ∧ o₀.fragments = o.fragments := by
    intro o ho
    obtain ⟨hmem, ht⟩ := List.mem_filter.1 ho
    exact ⟨of_decide_eq_true (Bool.and_eq_true_iff.1 ht).1, o, hmem, rfl,
      rfl⟩
  have hbegin : Startup.beginPass F.platform site sv pass
      = querying site sv pass l 0 (site.due F.platform .query) := by
    rw [querying, Nat.zero_mul, List.take_zero]
    rfl
  rw [hbegin]
  refine (stretch_pages pass hw hd hs hm 0 _).trans fun site₁ hm₁ => ?_
  rw [m.afterWrites_nil] at hm₁ ⊢
  rw [← hldef]
  cases pass with
  | restarts => exact stretch_settleNext .restarts hw hd hids hm₁ [] hl
  | software =>
    rw [Startup.settleAll]
    by_cases hnil : l.isEmpty = true
    · rw [if_pos hnil]
      refine .through site₁ ?_ (.refl _) (.refl _)
      show _ = m.afterWrites
        (l.map fun o => (Pass.software.settled _ o).record)
      rw [List.isEmpty_iff.1 hnil, List.map_nil, m.afterWrites_nil, hm₁]
    · rw [if_neg hnil]
      refine .of_resume hw hd rfl ?_
      set due := site₁.due F.platform .installed with hdue
      set site₂ := { site₁ with now := max site₁.now due } with hsite₂
      have hm₂ : site₂.world.1 = m := hm₁
      obtain ⟨site₃, hm₃, ⟨e, hinstalled, hj⟩ | ⟨hinstalled, hj⟩⟩ :=
        Faults.installed_cases (F := F) hm₂
      · have hres : Startup.resume F.platform site₂ sv (.inspecting l due)
            = Startup.failPass site₃ sv .software e.message := by
          simp only [Startup.resume, hinstalled]
        rw [hres]
        exact .of_failure (hm₃ ▸ .refl m) hj
      · have hres : Startup.resume F.platform site₂ sv (.inspecting l due)
            = Startup.settleNext F.platform site₃ sv .software
              m.installedSoftware l := by
          simp only [Startup.resume, hinstalled]
        rw [hres]
        exact .of_smooth hj
          (stretch_settleNext .software hw hd hids hm₃ m.installedSoftware hl)

/-- The first startup of a service makes the settlements of the platform,
until a call fails. -/
theorem stretch_passes {config : Config} (hv : config.validate = .ok ())
    (hids : (m.operations.map (·.id)).Nodup) (hm : site.world.1 = m)
    (hasInventory : Bool) (candidates : List Handler) :
    let sv : Service := { config, hasInventory, candidates, begun := true }
    Stretch F sv m m.settlements site
      (Startup.begin F.platform site { config, hasInventory, candidates })
      fun site' => Startup.verify F.platform site' sv := by
  intro sv
  have hs : 0 < sv.config.pageSize :=
    Nat.pos_of_ne_zero (Config.validate_eq_ok_iff.1 hv).2.1
  have hbegin : Startup.begin F.platform site
      { config, hasInventory, candidates }
      = Startup.beginPass F.platform site sv .restarts := by
    simp only [Startup.begin, hv]
    rfl
  rw [hbegin, MemoryPlatform.settlements_eq hids]
  refine (stretch_pass sv rfl rfl hs hids hm .restarts).trans
    fun site₁ hm₁ => ?_
  exact stretch_pass sv rfl rfl hs (m.nodup_afterWrites hids _) hm₁ .software

end ServiceSystem

end RemoteOps
