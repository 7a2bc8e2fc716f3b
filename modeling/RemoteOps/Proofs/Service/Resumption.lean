/-
Startups that a failing platform interrupts, and the startup that goes
through at last.

A startup that fails in a pass has made the first of the settlements, so
that the next one, by whatever service, finds the others and makes
these.

* `ServiceSystem.eq_of_answer`: a startup that has failed in a pass is at
  the end of its run;
* `Interrupted`: the platforms that failed startups leave behind;
* `ServiceSystem.resumes_of_interrupted`: the next startup makes the
  settlements that are missing, or fails after the first of these.
-/
import RemoteOps.Proofs.Lists
import RemoteOps.Proofs.Service.Interruption
import RemoteOps.Proofs.Service.Moves
import RemoteOps.Proofs.Service.Runs

namespace RemoteOps

/-! ### Startups that fail in a pass -/

/-- A call that has made the passes of a startup, or has ended for another
reason than a pass that failed. -/
def ServiceCall.isPast : ServiceCall → Bool
  | .startup u => !u.isInPasses
  | .returned (.error (.reconciliation _ _)) => false
  | .returned _ | .unwound => true
  | .takedown _ => false

/-- A call that makes the passes of a startup or has failed in one. -/
def ServiceCall.isAtPasses : ServiceCall → Bool
  | .startup u => u.isInPasses
  | .returned (.error (.reconciliation _ _)) => true
  | .returned _ | .takedown _ | .unwound => false

section Moves

variable {σ : Type} {p : Platform σ} {site : Site σ} {now : Nat}
  {sv sv' : Service} {kept : HandlerTable} {rest : List Registration}
  {es : List Event} {call : ServiceCall} {u : Startup}

lemma Undoes.isPast (h : Undoes now sv kept sv' call) :
    call.isPast = true := by
  cases h <;> rfl

lemma StartsNext.isPast (h : StartsNext now sv kept rest es sv' call) :
    call.isPast = true := by
  cases h with
  | start | publish => rfl
  | undo h => exact h.isPast

lemma Startup.isPast_verify : (verify p site sv).call.isPast = true := by
  rw [verify]
  split
  · next table _ =>
    obtain ⟨es, -, h⟩ := startNext_cases (p := p) site
      { sv with candidates := [] } .empty table.registrations
    exact h.isPast
  · rfl

/-- There is no way back into the passes. -/
lemma StartupMove.isPast (h : StartupMove now sv u es sv' call)
    (hu : u.isInPasses = false) : call.isPast = true := by
  cases h with
  | pass hp | passFailed hp | duplicate hp | verified hp =>
    rw [hu] at hp
    cases hp
  | started _ h | dropped _ h => exact h.isPast
  | unwound | published | undone => rfl
  | unpublished h => exact h.isPast

/-- A startup has made the passes, or is at them and has left the service
as it is. -/
lemma StartupMove.isPast_or_isAtPasses
    (h : StartupMove now sv u es sv' call) (hu : u.isInPasses = true) :
    call.isPast = true ∨ call.isAtPasses = true ∧ sv' = sv := by
  cases h with
  | pass _ hu' => exact .inr ⟨hu', rfl⟩
  | passFailed => exact .inr ⟨rfl, rfl⟩
  | duplicate => exact .inl rfl
  | verified _ _ _ h => exact .inl h.isPast
  | started | dropped | unwound | published | unpublished | undone =>
    cases hu

end Moves

namespace ServiceSystem

section Passes

variable {σ : Type} {p : Platform σ} {s s' : ServiceSystem σ}

/-- All calls have made the passes. -/
def IsPast (s : ServiceSystem σ) : Prop :=
  ∀ c ∈ s.callers, c.isPast = true

/-- A service with one caller, whose startup is making the passes or has
failed in one. -/
def IsAtPasses (s : ServiceSystem σ) : Prop :=
  s.service.worker = none ∧ s.service.shutdowns = []
    ∧ ∃ c, s.callers = [c] ∧ c.isAtPasses = true

lemma isPast_of_step (hs : (machine p).Step s s') (h : s.IsPast) :
    s'.IsPast := by
  cases hs with
  | wait => exact h
  | run t ht =>
    rcases step_callers ht with heq | ⟨k, c, c', -, hc, hc', -, -, heq⟩
    · rw [IsPast, heq]
      exact h
    · have hpast := h c (List.mem_of_getElem? hc)
      have hpast' : c'.call.isPast = true := by
        cases c with
        | startup u =>
          have hu : u.isInPasses = false := by
            simpa [ServiceCall.isPast] using hpast
          obtain ⟨es, -, hm⟩ := Startup.step_cases hc'
          exact hm.isPast hu
        | takedown t => cases hpast
        | returned | unwound => cases hc'
      rw [IsPast, heq]
      exact forall_mem_set h hpast' k

lemma isPast_of_runs (hr : (machine p).Runs s s') (h : s.IsPast) :
    s'.IsPast := by
  induction hr with
  | refl => exact h
  | tail _ hs ih => exact isPast_of_step hs ih

/-- A startup at its passes stays at them or has made them. -/
lemma IsAtPasses.of_step (hs : (machine p).Step s s') (h : s.IsAtPasses) :
    s'.IsAtPasses ∨ s'.IsPast := by
  obtain ⟨hw, hd, c, hcs, hat⟩ := h
  cases hs with
  | wait => exact .inl ⟨hw, hd, c, hcs, hat⟩
  | run t ht =>
    have heq : s = { site := s.site, service := s.service, callers := [c] } :=
      by rw [← hcs]
    have hother : t ≠ .caller 0 → step p s t = none := fun hne => by
      rw [heq]
      exact step_alone_of_ne hw hd c hne
    by_cases ht₀ : t = .caller 0
    · subst ht₀
      obtain ⟨c₀, hc, hrest⟩ := Option.bind_eq_some_iff.1 ht
      obtain ⟨c', hc', hs'⟩ := Option.bind_eq_some_iff.1 hrest
      obtain rfl := Option.some.inj hs'
      rw [hcs] at hc ⊢
      obtain rfl : c = c₀ := Option.some.inj hc
      cases c with
      | startup u =>
        obtain ⟨es, -, hm⟩ := Startup.step_cases hc'
        rcases hm.isPast_or_isAtPasses hat with hpast | ⟨hat', hsv⟩
        · exact .inr fun c'' hc'' => List.mem_singleton.1 hc'' ▸ hpast
        · exact .inl ⟨(congrArg Service.worker hsv).trans hw,
            (congrArg Service.shutdowns hsv).trans hd, _, rfl, hat'⟩
      | takedown t => cases hat
      | returned | unwound => cases hc'
    · have hnone := hother ht₀
      rw [show step p s t = some s' from ht] at hnone
      cases hnone

lemma isAtPasses_or_isPast_of_runs (hr : (machine p).Runs s s')
    (h : s.IsAtPasses) : s'.IsAtPasses ∨ s'.IsPast := by
  induction hr with
  | refl => exact .inl h
  | tail _ hs ih =>
    rcases ih with ih | ih
    · exact ih.of_step hs
    · exact .inr (isPast_of_step hs ih)

/-- A startup that has failed in a pass is the end of a run. -/
lemma IsAtPasses.eq_of_runs (h : s.IsAtPasses)
    {r : Except ServiceError Unit} (ha : s.answer? 0 = some r)
    (hr : (machine p).Runs s s') : s' = s := by
  obtain ⟨hw, hd, c, hcs, -⟩ := h
  rw [answer?_eq_some, hcs] at ha
  obtain rfl : c = .returned r := Option.some.inj ha
  rcases hr.eq_or_step with rfl | ⟨s₁, hs, -⟩
  · rfl
  · exfalso
    cases hs with
    | run t ht =>
      have heq : s = ⟨s.site, s.service, [.returned r]⟩ := by rw [← hcs]
      by_cases ht₀ : t = .caller 0
      · subst ht₀
        have hnone : step p s (.caller 0) = none := by
          simp [step, hcs, stepCall]
        rw [show step p s (.caller 0) = some s₁ from ht] at hnone
        cases hnone
      · have hnone : step p ⟨s.site, s.service, [.returned r]⟩ t = none :=
          step_alone_of_ne hw hd _ ht₀
        rw [← heq, show step p s t = some s₁ from ht] at hnone
        cases hnone
    | wait _ hmem =>
      have hnil : wakes s = [] := by
        simp [wakes, hw, hd, hcs, callWake?]
      rw [show (machine p).wakes s = [] from hnil] at hmem
      cases hmem

/-- What answers that a pass has failed has not made the passes. -/
lemma not_isPast_of_answer {kind cause : String}
    (ha : s.answer? 0 = some (.error (.reconciliation kind cause))) :
    ¬ s.IsPast := by
  intro h
  rw [answer?_eq_some] at ha
  cases h _ (List.mem_of_getElem? ha)

/-- A startup either begins with the passes or fails before. -/
lemma isAtPasses_or_isPast_start (site : Site σ) (config : Config)
    (hasInventory : Bool) (candidates : List Handler) :
    let s := start p { site, service := { config, hasInventory, candidates } }
    config.validate = .ok () ∧ s.IsAtPasses ∨ s.IsPast := by
  intro s
  have hs : s = alone (Startup.begin p site
      { config, hasInventory, candidates }) := rfl
  cases hv : config.validate with
  | error e =>
    refine .inr fun c hc => ?_
    rw [hs, Startup.begin] at hc
    simp only [hv, Bool.false_eq_true, if_false] at hc
    rw [List.mem_singleton.1 hc]
    rfl
  | ok u =>
    refine .inl ⟨rfl, ?_⟩
    rw [hs, Startup.begin]
    simp only [hv, Bool.false_eq_true, if_false]
    exact ⟨rfl, rfl, _, rfl, rfl⟩

/-- The state in which a startup has failed is the only one that answers
so. -/
lemma eq_of_answer (hat : s.IsAtPasses) {s₁ s₂ : ServiceSystem σ}
    {kind cause kind' cause' : String} (hl : (machine p).Leads s s₁)
    (ha₁ : s₁.answer? 0 = some (.error (.reconciliation kind cause)))
    (hr : (machine p).Runs s s₂)
    (ha₂ : s₂.answer? 0 = some (.error (.reconciliation kind' cause'))) :
    s₂ = s₁ := by
  have hat₁ := (isAtPasses_or_isPast_of_runs hl.runs hat).resolve_right
    (not_isPast_of_answer ha₁)
  have hat₂ := (isAtPasses_or_isPast_of_runs hr hat).resolve_right
    (not_isPast_of_answer ha₂)
  rcases hl.passes s₂ hr with h | h
  · exact (hat₂.eq_of_runs ha₂ h).symm
  · exact hat₁.eq_of_runs ha₁ h

end Passes

end ServiceSystem

/-! ### Platforms after failed startups -/

/-- The platforms that failed startups leave behind, each by a new service
of any configuration.  Between two of them, everything but the operations,
their record and the installed software may change. -/
inductive Interrupted (m : MemoryPlatform) : MemoryPlatform → Prop where
  | none : Interrupted m m
  | switch {m₁ m₂ : MemoryPlatform} (h : Interrupted m m₁)
    (hm : m₁.Agrees m₂) : Interrupted m m₂
  | startup {m₁ : MemoryPlatform} (h : Interrupted m m₁) {τ : Type}
    {F : Faults τ} {site : Site (MemoryPlatform × τ)}
    (hm : site.world.1 = m₁) {config : Config} {hasInventory : Bool}
    {candidates : List Handler} {s : ServiceSystem (MemoryPlatform × τ)}
    (hr : (ServiceSystem.machine F.platform).Runs
      (ServiceSystem.start F.platform
        { site, service := { config, hasInventory, candidates } }) s)
    {kind cause : String}
    (ha : s.answer? 0 = some (.error (.reconciliation kind cause))) :
    Interrupted m s.site.world.1

namespace ServiceSystem

variable {τ : Type} {F : Faults τ} {m m' : MemoryPlatform}
  {site : Site (MemoryPlatform × τ)}

lemma answer?_failPass (sv : Service) (pass : Pass) (cause : String) :
    (alone (Startup.failPass site sv pass cause)).answer? 0
      = some (.error (.reconciliation pass.kind cause)) := rfl

/-- A startup that fails in a pass has made the first of the
settlements. -/
lemma exists_prefix_of_answer (hids : (m.operations.map (·.id)).Nodup)
    (hm : site.world.1 = m) {config : Config} {hasInventory : Bool}
    {candidates : List Handler} {s : ServiceSystem (MemoryPlatform × τ)}
    (hr : (machine F.platform).Runs (start F.platform
      { site, service := { config, hasInventory, candidates } }) s)
    {kind cause : String}
    (ha : s.answer? 0 = some (.error (.reconciliation kind cause))) :
    ∃ made, made <+: m.settlements
      ∧ (m.afterWrites made).Agrees s.site.world.1 := by
  have hnot := not_isPast_of_answer ha
  rcases isAtPasses_or_isPast_start (p := F.platform) site config
    hasInventory candidates with ⟨hv, hat⟩ | hpast
  · rcases stretch_passes (F := F) hv hids hm hasInventory candidates with
      ⟨site', -, -, hl⟩ | ⟨site', made, pass, e, hfirst, hworld, -, hl⟩
    · -- the passes were made
      exfalso
      have hpast : IsPast (alone (Startup.verify F.platform site'
          { config, hasInventory, candidates, begun := true })) :=
        fun c hc => List.mem_singleton.1 hc ▸ Startup.isPast_verify
      rcases hl.passes s hr with h | h
      · exact not_isPast_of_answer (answer?_of_runs h ha) hpast
      · exact hnot (isPast_of_runs h hpast)
    · refine ⟨made, hfirst, ?_⟩
      rw [eq_of_answer hat hl (answer?_failPass _ pass e) hr ha]
      exact hworld
  · exact absurd (isPast_of_runs hr hpast) hnot

end ServiceSystem

/-- Whatever startups have failed, the first of the settlements were
made. -/
lemma Interrupted.exists_prefix {m m' : MemoryPlatform}
    (hids : (m.operations.map (·.id)).Nodup) (h : Interrupted m m') :
    ∃ ws, ws <+: m.settlements ∧ (m.afterWrites ws).Agrees m' := by
  induction h with
  | none =>
    exact ⟨[], List.nil_prefix, by rw [m.afterWrites_nil]; exact .refl m⟩
  | switch _ hm ih =>
    obtain ⟨ws, hws, hagree⟩ := ih
    exact ⟨ws, hws, hagree.trans hm⟩
  | startup _ hm hr ha ih =>
    obtain ⟨ws, hws, hagree⟩ := ih
    have hids₁ := m.nodup_afterWrites hids ws
    rw [← hagree.operations, ← hm] at hids₁
    obtain ⟨made, hmade, hworld⟩ :=
      ServiceSystem.exists_prefix_of_answer hids₁ rfl hr ha
    subst hm
    refine ⟨ws ++ made, ?_, ?_⟩
    · rw [MemoryPlatform.settlements_congr hagree.operations
        hagree.software] at hmade
      rw [← MemoryPlatform.settlements_afterWrites hids hws]
      exact (List.prefix_append_right_inj ws).2 hmade
    · rw [← m.afterWrites_append]
      exact (hagree.afterWrites made).trans hworld

namespace ServiceSystem

variable {τ : Type} {F : Faults τ} {m m' : MemoryPlatform}
  {site : Site (MemoryPlatform × τ)}

/-- A startup, after any number of failed ones.  Either no call of its
passes fails: then it verifies the handlers with all operations settled,
by the same writes that one startup would have made alone.  Or a call
fails: then it answers so, the writes until now are the first of these,
and all other operations are as they were. -/
theorem resumes_of_interrupted (hids : (m.operations.map (·.id)).Nodup)
    (hi : Interrupted m m') (hm : site.world.1 = m') {config : Config}
    (hv : config.validate = .ok ()) (hasInventory : Bool)
    (candidates : List Handler) :
    let sv : Service := { config, hasInventory, candidates }
    let s := start F.platform { site, service := sv }
    (∃ site' : Site (MemoryPlatform × τ),
      site.journal.Smooth site'.journal
        ∧ (machine F.platform).Leads s (alone (Startup.verify F.platform
          site' { sv with begun := true }))
        ∧ site'.world.1.operations = m.operations.map m.settled
        ∧ site'.world.1.writes = m.writes ++ m.settlements)
      ∨ ∃ s' kind cause ws, (machine F.platform).Leads s s'
        ∧ s'.answer? 0 = some (.error (.reconciliation kind cause))
        ∧ site.journal.Broken s'.site.journal
        ∧ ws <+: m.settlements
        ∧ s'.site.world.1.writes = m.writes ++ ws
        ∧ s'.site.world.1.operations = m.operations.map (·.after ws)
        ∧ ∀ o ∈ m.operations, (∀ w ∈ ws, w.id ≠ o.id) →
          o ∈ s'.site.world.1.operations := by
  intro sv s
  obtain ⟨ws, hws, hagree⟩ := hi.exists_prefix hids
  have hrest := MemoryPlatform.settlements_afterWrites hids hws
  have hids' : (m'.operations.map (·.id)).Nodup := by
    rw [hagree.operations]
    exact m.nodup_afterWrites hids ws
  have hleft : m'.settlements = (m.afterWrites ws).settlements :=
    MemoryPlatform.settlements_congr hagree.operations hagree.software
  rcases stretch_passes (F := F) hv hids' hm hasInventory candidates with
    ⟨site', hworld, hj, hl⟩ | ⟨site', made, pass, e, hfirst, hworld, hj, hl⟩
  · have hsame := hagree.afterWrites m'.settlements
    rw [m.afterWrites_append, hleft, hrest,
      MemoryPlatform.afterWrites_settlements hids] at hsame
    refine .inl ⟨site', hj, hl, ?_, ?_⟩
    · rw [hworld, hleft, hsame.operations]
    · rw [hworld, hleft, hsame.writes]
  · have hsame := (hagree.afterWrites made).trans hworld
    rw [m.afterWrites_append] at hsame
    rw [hleft] at hfirst
    have hprefix : ws ++ made <+: m.settlements := by
      rw [← hrest]
      exact (List.prefix_append_right_inj ws).2 hfirst
    refine .inr ⟨_, pass.kind, e, ws ++ made, hl, rfl, hj.cons _, hprefix,
      hsame.writes, hsame.operations, fun o ho hne => ?_⟩
    have hmem : o.after (ws ++ made)
        ∈ m.operations.map (·.after (ws ++ made)) := List.mem_map_of_mem ho
    rw [Operation.after_of_forall_ne hne] at hmem
    exact hsame.operations.symm ▸ hmem

/-- Surroundings that let some calls through, and no more once one was
kept back. -/
def Faults.countdown : Faults Nat where
  delay _ _ := 0
  execute s _ _ := ({}, s.2)
  fault s _ := if s.2 = 0 then some MemoryPlatform.unreachable else none
  next s _ := s.2 - 1

/-- A startup on a platform of which some calls get through. -/
def startupWithin (m : MemoryPlatform) (calls : Nat) :
    ServiceSystem (MemoryPlatform × Nat) :=
  start Faults.countdown.platform {
    site := { world := (m, calls) }
    service := { config := { pageSize := 1 }, candidates := [] } }

/-- A startup that fails at the look at the installed software, when it
has settled one operation, and then one that does not. -/
theorem resumes_of_interrupted_leftBehind :
    ∃ m', Interrupted leftBehind m'
      ∧ m'.writes.map (·.id) = ["1"]
      ∧ ∃ s', (machine Faults.countdown.platform).Leads
          (startupWithin m' 9) s'
        ∧ s'.site.world.1.operations.map (·.status)
          = [.successful, .failed, .pending]
        ∧ s'.site.world.1.writes.map (·.id) = ["1", "2"] := by
  set go := (machine Faults.countdown.platform).settle 40
  set s₁ := go (startupWithin leftBehind 3)
  have hids : (leftBehind.operations.map (·.id)).Nodup := by decide
  have hv : ({ pageSize := 1 } : Config).validate = .ok () := by decide
  -- the first startup fails
  have hr₁ : (machine Faults.countdown.platform).Runs
      (startupWithin leftBehind 3) s₁ := Machine.settle_runs 40 _
  have ha₁ : s₁.answer? 0 = some (.error (.reconciliation Kind.softwareList
      MemoryPlatform.unreachable.message)) := by decide +kernel
  have hi : Interrupted leftBehind s₁.site.world.1 := by
    unfold startupWithin at hr₁
    exact .startup .none rfl hr₁ ha₁
  refine ⟨_, hi, by decide +kernel, ?_⟩
  -- the second one does not
  set s₂ := go (startupWithin s₁.site.world.1 9)
  have hr₂ : (machine Faults.countdown.platform).Runs
      (startupWithin s₁.site.world.1 9) s₂ := Machine.settle_runs 40 _
  have ha₂ : s₂.answer? 0 = some (.ok ()) := by decide +kernel
  set site : Site (MemoryPlatform × Nat) :=
    { world := (s₁.site.world.1, 9) } with hsite
  have hm : site.world.1 = s₁.site.world.1 := rfl
  rcases resumes_of_interrupted (F := Faults.countdown) hids hi hm hv true
    [] with
    ⟨site', -, hl, hops, hwrites⟩ | ⟨s', kind, cause, ws, hl, ha, -⟩
  · refine ⟨_, hl, ?_, ?_⟩
    · rw [world_alone, Startup.world_verify, hops]
      decide +kernel
    · rw [world_alone, Startup.world_verify, hwrites]
      decide +kernel
  · exfalso
    rcases hl.passes s₂ hr₂ with h | h
    · exact absurd (ha.symm.trans (answer?_of_runs h ha₂)) (by simp)
    · exact absurd (ha₂.symm.trans (answer?_of_runs h ha)) (by simp)

end ServiceSystem

end RemoteOps

