/-
The startup of a service on a platform in memory, up to the point where
it has settled what an earlier run left executing.

* `ServiceSystem.leads_pages`: the pages of a pass are collected to all
  operations that it takes;
* `ServiceSystem.leads_settleNext`: these are written one by one;
* `ServiceSystem.leads_verify`: every startup comes to the platform with
  all operations settled, and only then verifies the handlers.
-/
import RemoteOps.Proofs.Platform.Hosted
import RemoteOps.Proofs.Service.Settling
import RemoteOps.Proofs.Service.Startup

namespace RemoteOps

/-! ### The calls of a startup -/

namespace MemoryPlatform

variable {m : MemoryPlatform}

/-- A page of a query that does not fail. -/
lemma query_eq (hq : m.failQueries = false) {size : Nat} (hs : 0 < size)
    (kind : String) (status : Status) (page : Nat) :
    m.query kind status size page
      = (.ok ⟨((m.matching kind status).drop (page * size)).take size,
        page * size + size < (m.matching kind status).length⟩, m) := by
  have hmax : Nat.max size 1 = size := Nat.max_eq_left hs
  rw [query, hq, if_neg Bool.false_ne_true, hmax]

/-- The write of a whole operation that is one of the platform, up to its
status and its reason. -/
lemma update_eq (hf : m.failingWrites = 0)
    (hd : (m.operations.map (·.id)).Nodup) {o : Operation}
    (ho : ∃ o₀ ∈ m.operations, o₀.id = o.id ∧ o₀.fragments = o.fragments) :
    m.update o = (.ok (), m.afterWrites [o.record]) := by
  obtain ⟨o₀, ho₀, hid, hfrag⟩ := ho
  have hfound : ¬ (m.operation? o.id).isNone = true := by
    rw [Option.isNone_iff_eq_none, operation?, List.find?_eq_none]
    exact fun hnone => hnone o₀ ho₀ (decide_eq_true hid)
  have hops : modifyFirst o.id (fun _ => o) m.operations
      = m.operations.map (·.after [o.record]) := by
    rw [modifyFirst_eq_map hd]
    refine List.map_congr_left fun a ha => ?_
    show _ = if o.id = a.id then
      { a with status := o.status, failureReason := o.failureReason } else a
    by_cases hao : a.id = o.id
    · obtain rfl : a = o₀ :=
        List.inj_on_of_nodup_map hd ha ho₀ (hao.trans hid.symm)
      rw [if_pos hao, if_pos hao.symm, hao, hfrag]
    · rw [if_neg hao, if_neg (Ne.symm hao)]
  rw [update, write, if_neg (not_not.2 hf)]
  show (if (m.operation? o.id).isNone = true then _ else
    (Except.ok (), { m with
      operations := modifyFirst o.id (fun _ => o) m.operations
      writes := m.writes ++ [o.record] })) = _
  rw [if_neg hfound, hops]
  rfl

end MemoryPlatform

namespace ServiceSystem

variable {τ : Type} {H : Host τ} {sv : Service}
  {site : Site (MemoryPlatform × τ)} {m : MemoryPlatform} {x : τ}
  {pass : Pass}

/-! ### Collecting the pages -/

/-- A startup that has collected some pages. -/
def querying {σ : Type} (site : Site σ) (sv : Service) (pass : Pass)
    (l : List Operation) (page due : Nat) : CallState σ :=
  ⟨site, sv, .startup
    (.querying pass page (l.take (page * sv.config.pageSize)) due)⟩

/-- The page of a number out of some operations. -/
def pageOf (l : List Operation) (size page : Nat) : OperationPage :=
  ⟨(l.drop (page * size)).take size, page * size + size < l.length⟩

/-- With the next page a startup goes on to the page after it; with the
last one, all operations of the pass are collected. -/
lemma resume_page {σ : Type} {p : Platform σ} {site site' : Site σ}
    (hs : 0 < sv.config.pageSize) {l : List Operation} {page due : Nat}
    (hquery : site.query p pass.kind .executing sv.config.pageSize page
      = (.ok (pageOf l sv.config.pageSize page), site')) :
    Startup.resume p site sv
        (.querying pass page (l.take (page * sv.config.pageSize)) due)
      = if (page + 1) * sv.config.pageSize < l.length
        then querying site' sv pass l (page + 1) (site'.due p .query)
        else Startup.settleAll p site' sv l pass := by
  set size := sv.config.pageSize with hsize
  set batch := pageOf l size page with hbatch
  have hfound : l.take (page * size) ++ batch.operations
      = l.take ((page + 1) * size) := by
    rw [Nat.add_mul, Nat.one_mul, List.take_add]
    rfl
  simp only [Startup.resume, ← hsize, hquery, hfound]
  have hnext : page * size + size = (page + 1) * size := by
    rw [Nat.add_mul, Nat.one_mul]
  by_cases hlt : (page + 1) * size < l.length
  · have hne : batch.operations ≠ [] := by
      intro hnil
      have hlen := congrArg List.length hnil
      rw [hbatch, pageOf, List.length_take, List.length_drop,
        List.length_nil] at hlen
      omega
    have hgo : (!batch.hasNext || batch.operations.isEmpty) = false := by
      rw [Bool.or_eq_false_iff]
      exact ⟨by simp [hbatch, pageOf, hnext, hlt], by simpa using hne⟩
    rw [if_pos hlt, hgo, if_neg Bool.false_ne_true, querying, hsize]
  · have hdone : (!batch.hasNext || batch.operations.isEmpty) = true := by
      rw [Bool.or_eq_true_iff]
      exact .inl (by simp [hbatch, pageOf, hnext, hlt])
    rw [if_neg hlt, if_pos hdone,
      List.take_of_length_le (Nat.not_lt.1 hlt)]

/-- The answer to a query is the next page; with the last page, all
operations of the pass are collected. -/
lemma resume_querying (pass : Pass) (hq : m.failQueries = false)
    (hs : 0 < sv.config.pageSize) (hm : site.world = (m, x)) (page due : Nat) :
    let l := m.operations.filter pass.takes
    ∃ site', site'.world = (m, x) ∧ ∃ due',
      Startup.resume H.platform site sv
          (.querying pass page (l.take (page * sv.config.pageSize)) due)
        = if (page + 1) * sv.config.pageSize < l.length
          then querying site' sv pass l (page + 1) due'
          else Startup.settleAll H.platform site' sv l pass := by
  intro l
  set batch := pageOf l sv.config.pageSize page with hbatch
  set site' := site.answered (m, x)
    (.query pass.kind .executing sv.config.pageSize page (.ok batch))
    with hsite
  have hquery : site.query H.platform pass.kind .executing
      sv.config.pageSize page = (.ok batch, site') := by
    have hmq : m.query pass.kind .executing sv.config.pageSize page
        = (.ok batch, m) := m.query_eq hq hs pass.kind .executing page
    rw [H.query_eq, hm, hmq]
  exact ⟨site', rfl, site'.due H.platform .query, resume_page hs hquery⟩

/-- The pages of a pass are collected to all operations that it takes. -/
theorem leads_pages (pass : Pass) (hw : sv.worker = none) (hd : sv.shutdowns = [])
    (hq : m.failQueries = false) (hs : 0 < sv.config.pageSize)
    (hm : site.world = (m, x)) (page due : Nat) :
    let l := m.operations.filter pass.takes
    ∃ site', site'.world = (m, x) ∧ (machine H.platform).Leads
      (alone (querying site sv pass l page due))
      (alone (Startup.settleAll H.platform site' sv l pass)) := by
  intro l
  -- every page leaves fewer operations
  induction hn : l.length - page * sv.config.pageSize
    using Nat.strongRecOn generalizing page site due with
  | ind n ih =>
    set site₁ := { site with now := max site.now due } with hsite₁
    have hm₁ : site₁.world = (m, x) := hm
    have hstep : (machine H.platform).Leads
        (alone (querying site sv pass l page due))
        (alone (Startup.resume H.platform site₁ sv _)) :=
      leads_startup hw hd rfl
    obtain ⟨site₂, hm₂, due', hres⟩ :=
      resume_querying (H := H) pass hq hs hm₁ page due
    rw [hres] at hstep
    by_cases hlt : (page + 1) * sv.config.pageSize < l.length
    · rw [if_pos hlt] at hstep
      have hless : l.length - (page + 1) * sv.config.pageSize < n := by
        rw [Nat.add_mul, Nat.one_mul] at hlt ⊢
        omega
      obtain ⟨site', hm', hrest⟩ := ih _ hless hm₂ (page + 1) due' rfl
      exact ⟨site', hm', hstep.trans hrest⟩
    · rw [if_neg hlt] at hstep
      exact ⟨site₂, hm₂, hstep⟩

/-! ### Writing the operations -/

/-- Operations that are executing are written one by one. -/
theorem leads_settleNext (pass : Pass) (hw : sv.worker = none) (hd : sv.shutdowns = [])
    (hf : m.failingWrites = 0) (hids : (m.operations.map (·.id)).Nodup)
    (hm : site.world = (m, x)) (installed : List InstalledSoftware)
    {l : List Operation} (hl : ∀ o ∈ l, o.status = .executing
      ∧ ∃ o₀ ∈ m.operations, o₀.id = o.id ∧ o₀.fragments = o.fragments) :
    ∃ site', site'.world = (m.afterWrites
        (l.map fun o => (pass.settled installed o).record), x)
      ∧ (machine H.platform).Leads
        (alone (Startup.settleNext H.platform site sv pass installed l))
        (alone (Startup.settleNext H.platform site' sv pass installed [])) := by
  induction l generalizing m site with
  | nil => exact ⟨site, by rw [List.map_nil, m.afterWrites_nil, hm], .refl _⟩
  | cons o rest ih =>
    obtain ⟨he, hknown⟩ := hl o List.mem_cons_self
    set o' := pass.settled installed o with ho'
    set due := site.due H.platform .update with hdue
    have hnext : Startup.settleNext H.platform site sv pass installed
        (o :: rest)
        = ⟨site, sv, .startup (.settling pass installed o' rest due)⟩ := by
      rw [Startup.settleNext, Pass.settle?_executing he]
      rfl
    set site₁ := { site with now := max site.now due } with hsite₁
    have hm₁ : site₁.world = (m, x) := hm
    have hupdate : m.update o' = (.ok (), m.afterWrites [o'.record]) :=
      m.update_eq hf hids hknown
    set site₂ := (site₁.answered (m.afterWrites [o'.record], x)
      (.update o' (.ok ()))).note (.counted (.reconciled pass.kind o'.status))
      with hsite₂
    have hres : Startup.resume H.platform site₁ sv
        (.settling pass installed o' rest due)
        = Startup.settleNext H.platform site₂ sv pass installed rest := by
      simp only [Startup.resume, H.update_eq, hm₁, hupdate]
      rfl
    have hstep : (machine H.platform).Leads
        (alone (Startup.settleNext H.platform site sv pass installed
          (o :: rest)))
        (alone (Startup.settleNext H.platform site₂ sv pass installed
          rest)) := by
      rw [hnext, ← hres]
      exact leads_startup hw hd rfl
    -- the other operations are still there
    have hl' : ∀ a ∈ rest, a.status = .executing
        ∧ ∃ a₀ ∈ (m.afterWrites [o'.record]).operations,
          a₀.id = a.id ∧ a₀.fragments = a.fragments := by
      intro a ha
      obtain ⟨hex, a₀, ha₀, hid, hfrag⟩ := hl a (List.mem_cons_of_mem o ha)
      exact ⟨hex, a₀.after [o'.record], List.mem_map_of_mem ha₀,
        (a₀.id_after _).trans hid, (a₀.fragments_after _).trans hfrag⟩
    have hf' : (m.afterWrites [o'.record]).failingWrites = 0 := hf
    have hm₂ : site₂.world = (m.afterWrites [o'.record], x) := rfl
    obtain ⟨site', hm', hrest⟩ :=
      ih hf' (m.nodup_afterWrites hids _) hm₂ hl'
    refine ⟨site', ?_, hstep.trans hrest⟩
    rw [hm', m.afterWrites_append]
    rfl

/-! ### The passes -/

/-- A pass settles the operations that it takes. -/
theorem leads_pass (sv : Service) (hw : sv.worker = none)
    (hd : sv.shutdowns = [])
    (hq : m.failQueries = false) (hf : m.failingWrites = 0)
    (hs : 0 < sv.config.pageSize) (hids : (m.operations.map (·.id)).Nodup)
    (hm : site.world = (m, x)) (pass : Pass) :
    ∃ site', site'.world = (m.afterPass pass, x)
      ∧ (machine H.platform).Leads
        (alone (Startup.beginPass H.platform site sv pass))
        (alone (Startup.settleNext H.platform site' sv pass
          m.installedSoftware [])) := by
  set l := m.operations.filter pass.takes with hldef
  have hl : ∀ o ∈ l, o.status = .executing
      ∧ ∃ o₀ ∈ m.operations, o₀.id = o.id ∧ o₀.fragments = o.fragments := by
    intro o ho
    obtain ⟨hmem, ht⟩ := List.mem_filter.1 ho
    exact ⟨of_decide_eq_true (Bool.and_eq_true_iff.1 ht).1, o, hmem, rfl,
      rfl⟩
  have hbegin : Startup.beginPass H.platform site sv pass
      = querying site sv pass l 0 (site.due H.platform .query) := by
    rw [querying, Nat.zero_mul, List.take_zero]
    rfl
  obtain ⟨site₁, hm₁, hpages⟩ := leads_pages (H := H) pass hw hd hq hs hm 0
    (site.due H.platform .query)
  rw [← hldef, ← hbegin] at hpages
  cases pass with
  | restarts =>
    obtain ⟨site', hm', hrest⟩ := leads_settleNext (H := H)
      .restarts hw hd hf hids hm₁ [] hl
    exact ⟨site', hm', hpages.trans hrest⟩
  | software =>
    rw [Startup.settleAll] at hpages
    by_cases hnil : l.isEmpty = true
    · rw [if_pos hnil] at hpages
      refine ⟨site₁, ?_, hpages⟩
      rw [hm₁, MemoryPlatform.afterPass, Pass.writes, ← hldef,
        List.isEmpty_iff.1 hnil, List.map_nil, m.afterWrites_nil]
    · rw [if_neg hnil] at hpages
      set due := site₁.due H.platform .installed with hdue
      set site₂ := { site₁ with now := max site₁.now due } with hsite₂
      set site₃ := site₂.answered (m, x)
        (.installed (.ok m.installedSoftware)) with hsite₃
      have hm₂ : site₂.world = (m, x) := hm₁
      have hres : Startup.resume H.platform site₂ sv (.inspecting l due)
          = Startup.settleNext H.platform site₃ sv .software
            m.installedSoftware l := by
        simp only [Startup.resume, H.installed_eq, hm₂]
        rfl
      have hstep : (machine H.platform).Leads
          (alone ⟨site₁, sv, .startup (.inspecting l due)⟩)
          (alone (Startup.settleNext H.platform site₃ sv .software
            m.installedSoftware l)) := by
        rw [← hres]
        exact leads_startup hw hd rfl
      have hm₃ : site₃.world = (m, x) := rfl
      obtain ⟨site', hm', hrest⟩ := leads_settleNext (H := H)
        .software hw hd hf hids hm₃ m.installedSoftware hl
      exact ⟨site', hm', (hpages.trans hstep).trans hrest⟩

/-- A service that is started for the first time makes both passes before
it verifies the handlers. -/
theorem leads_passes {config : Config} (hv : config.validate = .ok ())
    (hq : m.failQueries = false) (hf : m.failingWrites = 0)
    (hids : (m.operations.map (·.id)).Nodup) (hm : site.world = (m, x))
    (hasInventory : Bool) (candidates : List Handler) :
    let sv : Service := { config, hasInventory, candidates }
    ∃ site' : Site (MemoryPlatform × τ),
      let s' := alone (Startup.verify H.platform site'
        { sv with begun := true })
      (machine H.platform).Leads
          (start H.platform { site, service := sv }) s'
        ∧ s'.site.world
          = ((m.afterPass .restarts).afterPass .software, x) := by
  intro sv
  have hs : 0 < sv.config.pageSize :=
    Nat.pos_of_ne_zero (Config.validate_eq_ok_iff.1 hv).2.1
  have hstart : start H.platform { site, service := sv }
      = alone (Startup.beginPass H.platform site { sv with begun := true }
        .restarts) := by
    rw [start_eq_alone, Startup.begin]
    simp only [sv, hv]
    rfl
  obtain ⟨site₁, hm₁, hfirst⟩ := leads_pass (H := H)
    { sv with begun := true } rfl rfl hq hf hs hids hm .restarts
  have hids₁ : ((m.afterPass .restarts).operations.map (·.id)).Nodup :=
    m.nodup_afterWrites hids _
  have hq₁ : (m.afterPass .restarts).failQueries = false := hq
  have hf₁ : (m.afterPass .restarts).failingWrites = 0 := hf
  obtain ⟨site', hm', hsecond⟩ := leads_pass (H := H)
    { sv with begun := true } rfl rfl hq₁ hf₁ hs hids₁ hm₁ .software
  refine ⟨site', ?_, ?_⟩
  · rw [hstart]
    exact hfirst.trans hsecond
  · rw [world_alone, Startup.world_verify, hm']

/-- On a platform that does not fail, a service that is started settles
what an earlier run left executing: when it verifies the handlers, every
operation is settled in its place, and recorded if it was executing and
is a restart or an update, the restarts first. -/
theorem leads_verify {config : Config} (hv : config.validate = .ok ())
    (hq : m.failQueries = false) (hf : m.failingWrites = 0)
    (hids : (m.operations.map (·.id)).Nodup) (hm : site.world = (m, x))
    (hasInventory : Bool) (candidates : List Handler) :
    let sv : Service := { config, hasInventory, candidates }
    ∃ (reason : Operation → String) (site' : Site (MemoryPlatform × τ)),
      let settle := Operation.settle reason m.installedSoftware
      let s' := alone (Startup.verify H.platform site'
        { sv with begun := true })
      (machine H.platform).Leads
          (start H.platform { site, service := sv }) s'
        ∧ s'.site.world = ({ m with
          operations := m.operations.map settle
          writes := m.writes
            ++ (m.operations.filter Pass.restarts.takes).map
              (fun o => (settle o).record)
            ++ (m.operations.filter fun o => Pass.software.takes o
              && !o.hasFragment Kind.restart).map
              (fun o => (settle o).record) }, x) := by
  intro sv
  obtain ⟨site', hl, hw⟩ :=
    leads_passes (H := H) hv hq hf hids hm hasInventory candidates
  refine ⟨Pass.updateReason m.installedSoftware, site', hl, ?_⟩
  rw [hw, m.afterPass_afterPass hids]

/-- A restart that is an update too, an update of which another version is
installed, and a restart that nobody has begun with. -/
def leftBehind : MemoryPlatform where
  operations :=
    let entry : Json :=
      .object [("name", .string "agent"), ("version", .string "2")]
    let update (id : String) :=
      (Operation.new id).withFragment Kind.softwareList (.array [entry])
    [ ((update "1").withFragment Kind.restart .null).withStatus .executing,
      (update "2").withStatus .executing,
      (Operation.new "3").withFragment Kind.restart .null ]
  installedSoftware := [⟨"agent", "1"⟩]

/-- Pages of one operation are enough. -/
theorem leads_verify_leftBehind :
    let config : Config := { pageSize := 1 }
    let s : ServiceSystem (MemoryPlatform × Unit) := {
      site := { world := (leftBehind, ()) }
      service := { config, candidates := [] } }
    config.validate = .ok ()
      ∧ leftBehind.failQueries = false ∧ leftBehind.failingWrites = 0
      ∧ (leftBehind.operations.map (·.id)).Nodup
      ∧ ∃ s', (machine Host.prompt.platform).Leads
          (start Host.prompt.platform s) s'
        ∧ s'.site.world.1.operations.map (·.status)
          = [.successful, .failed, .pending]
        ∧ s'.site.world.1.writes.map (·.id) = ["1", "2"] := by
  intro config s
  have hv : config.validate = .ok () := by decide
  have hids : (leftBehind.operations.map (·.id)).Nodup := by decide
  have hm : s.site.world = (leftBehind, ()) := rfl
  obtain ⟨reason, site', hl, hw⟩ :=
    leads_verify (H := Host.prompt) hv rfl rfl hids hm true []
  refine ⟨hv, rfl, rfl, hids, _, hl, ?_, ?_⟩
  · rw [hw]
    rfl
  · rw [hw]
    rfl

end ServiceSystem

end RemoteOps
