/-
Which reasons a service sends to the platform, its startup passes and its
worker taken together.

A pass settles each operation anew: a success is written without a
reason, whatever the reason with which the operation was found.

* `ServiceSystem.Used`: the runs in which a service is started and
  stopped in any way;
* `Startup.plain_resume`: a startup sends no reason but with a failure;
* `ServiceSystem.Used.keepsReasons`: nor does anything else of a service,
  claims apart;
* `reasonRule_of_runs`: which reasons a worker and a service send.
-/
import RemoteOps.Proofs.Service.Life
import RemoteOps.Proofs.Shutdown
import RemoteOps.Proofs.Worker.Reasons

namespace RemoteOps

variable {σ : Type} {p : Platform σ}

/-! ### Startups -/

/-- A settled operation that is about to be written has a reason only if
it has failed. -/
def ServiceCall.IsPlain : ServiceCall → Prop
  | .startup (.settling _ _ o _ _) => o.status.GoesWith o.failureReason
  | .startup (.querying ..) | .startup (.inspecting ..)
  | .startup (.starting ..) | .startup (.publishing ..)
  | .startup (.undoing _) | .takedown _ | .returned _ | .unwound => True

/-- A pass sends a reason with a failure only. -/
lemma Pass.goesWith_of_settle? {pass : Pass}
    {installed : List InstalledSoftware} {o o' : Operation}
    (h : pass.settle? installed o = .ok o') :
    o'.status.GoesWith o'.failureReason := by
  rw [settle?] at h
  split at h
  · next ht =>
    obtain ⟨-, rfl⟩ := Operation.transitionTo_eq_ok_iff.1 ht
    obtain rfl := Except.ok.inj h
    cases hf : pass.fault? installed o with
    | none => exact .inr ⟨Status.noConfusion, rfl⟩
    | some reason => exact .inl rfl
  · cases h

namespace Startup

variable {site site' : Site σ} {sv : Service} {c : CallState σ} {u : Startup}

/-- A startup has sent nothing but what is plain, and goes on so. -/
structure GoesOnPlainly (site : Site σ) (c : CallState σ) : Prop where
  enters : ∃ es, site.Enters es c.site ∧ ∀ e ∈ es, e.IsPlain
  call : c.call.IsPlain

/-- What was entered before does not matter if it is plain. -/
lemma GoesOnPlainly.after {es : List Event} (h : GoesOnPlainly site' c)
    (hs : site.Enters es site') (hes : ∀ e ∈ es, e.IsPlain) :
    GoesOnPlainly site c := by
  obtain ⟨es', hs', hes'⟩ := h.enters
  exact ⟨⟨es ++ es', hs.trans hs', List.forall_mem_append.2 ⟨hes, hes'⟩⟩,
    h.call⟩

/-- A startup that enters nothing. -/
lemma GoesOnPlainly.of_site (hsite : c.site = site)
    (hcall : c.call.IsPlain) : GoesOnPlainly site c :=
  ⟨⟨[], hsite ▸ .refl site, List.forall_mem_nil _⟩, hcall⟩

lemma isPlain_of_undoes {now : Nat} {table : HandlerTable} {sv' : Service}
    {call : ServiceCall} (h : Undoes now sv table sv' call) :
    call.IsPlain := by
  cases h <;> trivial

lemma plain_undo (site : Site σ) (sv : Service) (table : HandlerTable) :
    GoesOnPlainly site (undo site sv table) := by
  obtain ⟨hsite, hu⟩ := undo_cases site sv table
  exact .of_site hsite (isPlain_of_undoes hu)

lemma plain_startNext (site : Site σ) (sv : Service) (kept : HandlerTable)
    (rest : List Registration) :
    GoesOnPlainly site (startNext p site sv kept rest) := by
  obtain ⟨es, hs, hn⟩ := startNext_cases (p := p) site sv kept rest
  generalize startNext p site sv kept rest = c at hs hn
  obtain ⟨site', sv', call⟩ := c
  dsimp only at hs hn
  cases hn with
  | start =>
    exact ⟨⟨_, hs, List.forall_mem_singleton.2 (Event.isPlain_of_sent? rfl)⟩,
      trivial⟩
  | publish => exact ⟨⟨_, hs, List.forall_mem_nil _⟩, trivial⟩
  | undo h => exact ⟨⟨_, hs, List.forall_mem_nil _⟩, isPlain_of_undoes h⟩

lemma plain_verify (site : Site σ) (sv : Service) :
    GoesOnPlainly site (verify p site sv) := by
  rw [verify]
  split
  · exact plain_startNext site _ _ _
  · exact .of_site rfl trivial

lemma plain_settleNext (site : Site σ) (sv : Service) (pass : Pass)
    (installed : List InstalledSoftware) (l : List Operation) :
    GoesOnPlainly site (settleNext p site sv pass installed l) := by
  cases l with
  | nil =>
    cases pass with
    | restarts => exact .of_site rfl trivial
    | software => exact plain_verify site sv
  | cons o rest =>
    rw [settleNext]
    split
    · next hs => exact .of_site rfl (Pass.goesWith_of_settle? hs)
    · exact .of_site rfl trivial

lemma plain_settleAll (site : Site σ) (sv : Service) (l : List Operation)
    (pass : Pass) : GoesOnPlainly site (settleAll p site sv l pass) := by
  cases pass with
  | restarts => exact plain_settleNext site sv .restarts [] l
  | software =>
    rw [settleAll]
    split
    · exact plain_verify site sv
    · exact .of_site rfl trivial

/-- What a startup does when its time has come sends no reason but with a
failure. -/
theorem plain_resume (hu : (ServiceCall.startup u).IsPlain) :
    GoesOnPlainly site (u.resume p site sv) := by
  have hone : ∀ e : Event, e.sent? = none → ∀ e' ∈ [e], e'.IsPlain :=
    fun e he => List.forall_mem_singleton.2 (Event.isPlain_of_sent? he)
  cases u with
  | querying pass page found due =>
    have hs := Site.Enters.answered site
      (p.query site.world pass.kind .executing sv.config.pageSize page).2
      (.query pass.kind .executing sv.config.pageSize page
        (p.query site.world pass.kind .executing sv.config.pageSize page).1)
    simp only [resume]
    split
    · exact GoesOnPlainly.after (.of_site rfl trivial) hs (hone _ rfl)
    · split
      · exact (plain_settleAll _ sv _ pass).after hs (hone _ rfl)
      · exact GoesOnPlainly.after (.of_site rfl trivial) hs (hone _ rfl)
  | inspecting found due =>
    have hs := Site.Enters.answered site (p.installed site.world).2
      (.installed (p.installed site.world).1)
    simp only [resume]
    split
    · exact GoesOnPlainly.after (.of_site rfl trivial) hs (hone _ rfl)
    · exact (plain_settleNext _ sv _ _ _).after hs (hone _ rfl)
  | settling pass installed o rest due =>
    have hs := Site.Enters.answered site (p.update site.world o).2
      (.update o (p.update site.world o).1)
    have hes : ∀ e ∈ [Event.update o (p.update site.world o).1],
        e.IsPlain := by
      refine List.forall_mem_singleton.2 fun status reason hsent => ?_
      obtain ⟨rfl, rfl⟩ := Prod.mk.inj (Option.some.inj hsent)
      exact hu
    simp only [resume]
    split
    · exact GoesOnPlainly.after (.of_site rfl trivial) hs hes
    · have hcount : Event.sent? (.counted (.reconciled pass.kind o.status))
          = none := rfl
      exact (plain_settleNext _ sv _ _ _).after (hs.note _)
        (List.forall_mem_append.2 ⟨hes, hone _ hcount⟩)
  | starting kept r rest due =>
    simp only [resume]
    split
    · exact (plain_startNext _ sv _ _).after
        ((Site.Enters.refl site).note _) (hone _ rfl)
    · exact plain_startNext site sv kept rest
    · exact .of_site rfl trivial
  | publishing table due =>
    have hs := Site.Enters.answered site
      (p.publish site.world table.kindNames).2
      (.publish table.kindNames (p.publish site.world table.kindNames).1)
    simp only [resume]
    split
    · exact GoesOnPlainly.after (.of_site rfl trivial) hs (hone _ rfl)
    · exact (plain_undo _ sv table).after hs (hone _ rfl)
  | undoing i => exact .of_site rfl trivial

lemma plain_begin (site : Site σ) (sv : Service) :
    (begin p site sv).site = site
      ∧ (begin p site sv).service.worker = sv.worker
      ∧ (begin p site sv).call.IsPlain := by
  rw [begin]
  split
  · exact ⟨rfl, rfl, trivial⟩
  · dsimp only
    split <;> exact ⟨rfl, rfl, trivial⟩

end Startup

/-! ### Services -/

namespace Service

variable {now : Nat} {sv sv' : Service} {w : Worker} {call : ServiceCall}

/-- What the loops of the worker are doing, if there is one. -/
def loopPhases (sv : Service) : List LoopPhase :=
  sv.worker.elim [] Worker.phases

lemma loopPhases_of_worker (h : sv.worker = some w) :
    sv.loopPhases = w.phases := by rw [loopPhases, h]; rfl

end Service

section Takedown

variable {now : Nat} {sv sv' : Service} {w : Worker} {t : Takedown}
  {halt : Halt} {next : Halt → Takedown} {call : ServiceCall}

lemma Closes.keepsWorker (h : Closes now sv sv' call) :
    sv'.worker = sv.worker ∧ call.IsPlain :=
  ⟨h.worker_eq, by cases h <;> trivial⟩

lemma Awaits.keepsWorker (h : Awaits now sv w next halt sv' call) :
    sv'.worker = some w ∧ call.IsPlain := by
  cases h with
  | waits => exact ⟨rfl, trivial⟩
  | goesOn hc => exact hc.keepsWorker

/-- Taking the service down leaves every loop where it is. -/
lemma TakedownMove.loopPhases (hm : TakedownMove now sv t sv' call) :
    sv'.loopPhases = sv.loopPhases ∧ call.IsPlain := by
  have hof : ∀ {w w' : Worker}, sv.worker = some w → w.SameTasks w' →
      sv'.worker = some w' → sv'.loopPhases = sv.loopPhases :=
    fun hw hsame hw' => by
      rw [Service.loopPhases_of_worker hw', Service.loopPhases_of_worker hw,
        hsame.phases]
  cases hm with
  | finished hw hr ha | gone hw hr ha =>
    obtain ⟨hw', hcall⟩ := ha.keepsWorker
    exact ⟨hof hw (.resume hr) hw', hcall⟩
  | abort hw _ _ ha =>
    obtain ⟨hw', hcall⟩ := ha.keepsWorker
    exact ⟨hof hw (.beginAbort _) hw', hcall⟩
  | leave _ _ _ hc =>
    obtain ⟨hw', hcall⟩ := hc.keepsWorker
    exact ⟨by rw [Service.loopPhases, hw', Service.loopPhases], hcall⟩
  | stopped => exact ⟨rfl, trivial⟩

lemma Takedown.loopPhases_begin (site : Site σ) (sv : Service) :
    (begin site sv).service.loopPhases = sv.loopPhases
      ∧ (begin site sv).call.IsPlain := by
  rcases (begin_cases site sv).2 with ⟨-, hc⟩ | ⟨w, hw, ha⟩
  · obtain ⟨hw', hcall⟩ := hc.keepsWorker
    exact ⟨by rw [Service.loopPhases, hw', Service.loopPhases], hcall⟩
  · obtain ⟨hw', hcall⟩ := ha.keepsWorker
    rw [Service.loopPhases_of_worker hw', Service.loopPhases_of_worker hw]
    exact ⟨(Worker.SameTasks.beginStop w).phases, hcall⟩

end Takedown

namespace ServiceSystem

variable {s s' : ServiceSystem σ}

/-- The runs of a service that is started and stopped at any time, by
anyone.  The tasks take their steps in any order, and the state of the
platform changes in any way. -/
inductive Used (p : Platform σ) : ServiceSystem σ → Prop where
  | new (now : Nat) (world : σ) (config : Config) (hasInventory : Bool)
    (cs : List Handler) : Used p { site := { now, world }, service :=
      { config, hasInventory, candidates := cs } }
  | start {s : ServiceSystem σ} (h : Used p s) : Used p (s.start p)
  | stop {s : ServiceSystem σ} (h : Used p s) : Used p s.stop
  | step {s s' : ServiceSystem σ} (h : Used p s)
    (hs : (machine p).Step s s') : Used p s'
  | outside {s : ServiceSystem σ} (h : Used p s) (world : σ) :
    Used p (s.withWorld world)

lemma Used.of_runs (h : Used p s) (hr : (machine p).Runs s s') :
    Used p s' := by
  induction hr with
  | refl => exact h
  | tail _ hs ih => exact ih.step hs

/-- Worker and startups of a service send reasons as they should. -/
structure IsReasonable (s : ServiceSystem σ) : Prop where
  worker : KeepsReasons s.service.loopPhases s.site.journal.calls
  callers : ∀ c ∈ s.callers, c.IsPlain

namespace IsReasonable

lemma calls_noteReturn (site : Site σ) (i : Nat) (c : ServiceCall) :
    (noteReturn site i c).journal.calls = site.journal.calls := by
  rw [noteReturn]
  split
  · exact Journal.calls_cons_of_not_isCall rfl _
  · rfl

/-- A call is made. -/
lemma join (h : IsReasonable s) {c : CallState σ} (hsite : c.site = s.site)
    (hphases : c.service.loopPhases = s.service.loopPhases)
    (hcall : c.call.IsPlain) : IsReasonable (s.join c) where
  worker := by
    rw [ServiceSystem.join, calls_noteReturn, hsite, hphases]
    exact h.worker
  callers := List.forall_mem_append.2
    ⟨h.callers, List.forall_mem_singleton.2 hcall⟩

/-- A startup goes on. -/
lemma startup (h : IsReasonable s) {u : Startup} {c : CallState σ}
    (hu : (ServiceCall.startup u).IsPlain)
    (hs : u.step p s.site s.service = some c) :
    KeepsReasons c.service.loopPhases c.site.journal.calls
      ∧ c.call.IsPlain := by
  have hworker : c.service.worker = s.service.worker
      ∨ ∃ table interval,
        c.service.worker = some (.launched table interval) := by
    obtain ⟨es, -, hm⟩ := Startup.step_cases hs
    exact hm.effect.worker
  rw [Startup.step] at hs
  split at hs
  · obtain rfl := Option.some.inj hs
    obtain ⟨⟨es, he, hes⟩, hcall⟩ :=
      Startup.plain_resume (p := p) hu
    have hkeeps := h.worker.append
      fun e (hmem : e ∈ es.filter Event.isCall) =>
        hes e (List.mem_filter.1 hmem).1
    rw [← he.calls] at hkeeps
    refine ⟨?_, hcall⟩
    rcases hworker with hw | ⟨table, interval, hw⟩
    · rw [Service.loopPhases, hw]
      exact hkeeps
    · rw [Service.loopPhases_of_worker hw]
      exact ⟨hkeeps.kept, List.forall_mem_singleton.2 trivial⟩
  · cases hs

/-- The step of a task. -/
lemma move (h : IsReasonable s) (hm : ServiceMove p s s') :
    IsReasonable s' := by
  cases hm with
  | loop hw hs =>
    have hk := h.worker
    rw [Service.loopPhases_of_worker hw] at hk
    exact ⟨hk.stepLoop hs, h.callers⟩
  | call hw hs =>
    have hk := h.worker
    rw [Service.loopPhases_of_worker hw] at hk
    exact ⟨hk.stepCall hs, h.callers⟩
  | stop hd hs =>
    obtain ⟨t, es, phase, -, hm, he, -⟩ := Shutdown.stepTask_cases hs
    have hnil : es.filter Event.isCall = [] := by cases hm <;> rfl
    have hk := h.worker
    rw [← List.append_nil s.site.journal.calls, ← hnil, ← he.calls] at hk
    exact ⟨hk, h.callers⟩
  | wait => exact ⟨h.worker, h.callers⟩
  | @caller i c c' hc hs =>
    have hplain := h.callers c (List.mem_of_getElem? hc)
    obtain ⟨hkeeps, hcall⟩ :
        KeepsReasons c'.service.loopPhases c'.site.journal.calls
          ∧ c'.call.IsPlain := by
      cases c with
      | startup u => exact h.startup hplain hs
      | takedown t =>
        obtain ⟨hsite, hm⟩ := Takedown.step_cases hs
        obtain ⟨hphases, hcall⟩ := hm.loopPhases
        rw [hsite, hphases]
        exact ⟨h.worker, hcall⟩
      | returned | unwound => cases hs
    exact ⟨by rw [calls_noteReturn]; exact hkeeps,
      forall_mem_set h.callers hcall i⟩

end IsReasonable

/-- In a run of a service reasons are sent as they should be. -/
theorem Used.isReasonable (h : Used p s) : IsReasonable s := by
  induction h with
  | new => exact ⟨⟨.nil, List.forall_mem_nil _⟩, List.forall_mem_nil _⟩
  | @start s _ ih =>
    obtain ⟨hsite, hworker, hcall⟩ :=
      Startup.plain_begin (p := p) s.site s.service
    exact ih.join hsite (by rw [Service.loopPhases, hworker]; rfl) hcall
  | @stop s _ ih =>
    obtain ⟨hphases, hcall⟩ := Takedown.loopPhases_begin s.site s.service
    exact ih.join (Takedown.begin_cases s.site s.service).1 hphases hcall
  | step _ hs ih =>
    cases hs with
    | run t ht => exact ih.move (step_cases ht)
    | wait => exact ⟨ih.worker, ih.callers⟩
  | outside _ _ ih => exact ⟨ih.worker, ih.callers⟩

end ServiceSystem

/-! ### The rule -/

/-- Whatever a worker or a service does, on any platform and however it is
called, it sends a reason with failures only, except that an operation is
claimed with the reason with which it was handed out. -/
theorem reasonRule_of_runs (p : Platform σ) :
    (∀ table interval s records,
      WorkerSystem.Recorded p table interval s records →
        ReasonRule s.site.journal.calls)
      ∧ ∀ s, ServiceSystem.Used p s → ReasonRule s.site.journal.calls :=
  ⟨fun _ _ _ _ h => h.keepsReasons.kept.rule,
    fun _ h => h.isReasonable.worker.kept.rule⟩

/-- A pending restart, and one that is being executed, both with a reason
that they had before. -/
def failedBefore : MemoryPlatform where
  operations :=
    let restart := (Operation.new "1").withFragment Kind.restart (.object [])
    [{ restart with failureReason := some "old" },
      { restart with
        id := "2", status := .executing, failureReason := some "old" }]

/-- A service settles the second one and claims the first one. -/
def restartingService : ServiceSystem (MemoryPlatform × Unit) :=
  let p := Host.prompt.platform
  (ServiceSystem.machine p).settle 40 (ServiceSystem.start p {
    site := { now := 0, world := (failedBefore, ()) }
    service := { config := {}, candidates := [WorkerSystem.restarter] } })

/-- The claim is written with the reason, and nothing else is. -/
theorem reasonRule_restartingService :
    let s := restartingService
    ServiceSystem.Used Host.prompt.platform s
      ∧ ReasonRule s.site.journal.calls
      ∧ s.site.world.1.writes
        = [⟨"2", .successful, none⟩, ⟨"1", .executing, some "old"⟩,
          ⟨"1", .successful, none⟩] := by
  intro s
  have hnew := ServiceSystem.Used.new (p := Host.prompt.platform) 0
    (failedBefore, ()) {} true [WorkerSystem.restarter]
  have hused : ServiceSystem.Used Host.prompt.platform s :=
    hnew.start.of_runs (Machine.settle_runs 40 _)
  exact ⟨hused, (reasonRule_of_runs _).2 s hused, by decide +kernel⟩

end RemoteOps
