/-
The moves of a service and of those who call it.

A startup makes its passes, starts the handlers one after the other,
publishes their kinds and takes up the worker; taking the service down
ends the worker and then the handlers.  Each move is given with the
events that it enters and with the service that it leaves.

* `Startup.bringUp_eq`: the worker that a startup takes up can be started;
* `StartupMove`, `Startup.step_cases`: the moves of a startup;
* `TakedownMove`, `Takedown.step_cases`: the moves of taking the service
  down;
* `ServiceMove`, `ServiceSystem.step_cases`: the moves of all tasks.
-/
import Mathlib.Tactic.Lemma
import RemoteOps.Proofs.Journal
import RemoteOps.Service.System

namespace RemoteOps

/-- An event of a pass over the executing operations. -/
def Event.isOfPasses : Event → Bool
  | .query .. | .update .. | .installed _ | .counted _ => true
  | .poll _ | .status .. | .execute .. | .finish .. | .publish ..
  | .start _ | .started _ | .stop _ | .stopped _ | .returned _ => false

/-- An event of a startup. -/
def Event.isOfStartup : Event → Bool
  | .query .. | .update .. | .installed _ | .counted _ | .publish ..
  | .start _ | .started _ => true
  | .poll _ | .status .. | .execute .. | .finish .. | .stop _ | .stopped _
  | .returned _ => false

/-- A startup that is about to make its passes, or is making them. -/
def Startup.isInPasses : Startup → Bool
  | .querying .. | .inspecting .. | .settling .. => true
  | .starting .. | .publishing .. | .undoing _ => false

/-- Whether a call is a startup that goes on, or one that has come to an
abnormal end. -/
def ServiceCall.isOfStartup : ServiceCall → Bool
  | .startup _ | .unwound => true
  | .takedown _ | .returned _ => false

/-- A worker that was just started. -/
def Worker.launched (table : HandlerTable) (interval : Span) : Worker :=
  { Worker.new table interval with
    running := true
    signals := 1
    loops := [{ seen := 1 }]
    state := .started }

/-- A service that has taken up a worker for some handlers. -/
def Service.launch (sv : Service) (table : HandlerTable) : Service :=
  { sv with
    active := table
    worker := some (.launched table sv.config.pollInterval) }

/-- What the first startup of a service begins with: it makes its passes, or
is refused with its configuration. -/
inductive FirstCall (config : Config) : ServiceCall → Prop where
  | passes {due : Nat} (hv : config.validate = .ok ()) :
    FirstCall config (.startup (.querying .restarts 0 [] due))
  | refused {e : ConfigError} (hv : config.validate = .error e) :
    FirstCall config (.returned (.error (.config e)))

/-! ### Moves of a startup -/

/-- How a startup goes on that has nothing to serve. -/
inductive Undoes (now : Nat) (sv : Service) (table : HandlerTable) :
    Service → ServiceCall → Prop where
  | nothing (h : table.isEmpty = true) :
    Undoes now sv table (sv.launch .empty) (.returned (.ok ()))
  | group {d : Shutdown} (h : table.isEmpty = false)
    (hd : Shutdown.begin? now (table.handlers.map (·.toComponent))
      sv.config.handlersShutdownTimeout true = .ok d) :
    Undoes now sv table { sv with shutdowns := sv.shutdowns ++ [d] }
      (.startup (.undoing sv.shutdowns.length))
  | refused {e : ShutdownError} (h : table.isEmpty = false)
    (hd : Shutdown.begin? now (table.handlers.map (·.toComponent))
      sv.config.handlersShutdownTimeout true = .error e) :
    Undoes now sv table (sv.launch .empty) (.returned (.ok ()))

/-- How a startup goes on with the handlers that are still to be
started. -/
inductive StartsNext (now : Nat) (sv : Service) (kept : HandlerTable) :
    List Registration → List Event → Service → ServiceCall → Prop where
  | start {r : Registration} {rest : List Registration} {due : Nat} :
    StartsNext now sv kept (r :: rest) [.start r.handler.toComponent] sv
      (.startup (.starting kept r rest due))
  | publish {due : Nat} :
    StartsNext now sv kept [] [] sv (.startup (.publishing kept due))
  | undo {sv' : Service} {call : ServiceCall}
    (h : Undoes now sv kept sv' call) :
    StartsNext now sv kept [] [] sv' call

/-- The events that a startup enters, the service after it, and how it
goes on. -/
inductive StartupMove (now : Nat) (sv : Service) :
    Startup → List Event → Service → ServiceCall → Prop where
  | pass {u u' : Startup} {es : List Event} (hu : u.isInPasses = true)
    (hu' : u'.isInPasses = true) (hes : ∀ e ∈ es, e.isOfPasses = true) :
    StartupMove now sv u es sv (.startup u')
  | passFailed {u : Startup} {es : List Event} {kind cause : String}
    (hu : u.isInPasses = true) (hes : ∀ e ∈ es, e.isOfPasses = true) :
    StartupMove now sv u es sv
      (.returned (.error (.reconciliation kind cause)))
  | duplicate {u : Startup} {es : List Event} {e : DuplicateKind}
    (hu : u.isInPasses = true) (hes : ∀ e ∈ es, e.isOfPasses = true)
    (hv : HandlerTable.verify sv.candidates = .error e) :
    StartupMove now sv u es { sv with candidates := [] }
      (.returned (.error (.duplicate e)))
  | verified {u : Startup} {es es' : List Event} {table : HandlerTable}
    {sv' : Service} {call : ServiceCall} (hu : u.isInPasses = true)
    (hes : ∀ e ∈ es, e.isOfPasses = true)
    (hv : HandlerTable.verify sv.candidates = .ok table)
    (h : StartsNext now { sv with candidates := [] } .empty
      table.registrations es' sv' call) :
    StartupMove now sv u (es ++ es') sv' call
  | started {kept : HandlerTable} {r : Registration}
    {rest : List Registration} {due : Nat} {es : List Event}
    {sv' : Service} {call : ServiceCall}
    (hr : r.handler.startPhase.ending = .success)
    (h : StartsNext now sv (kept.push r) rest es sv' call) :
    StartupMove now sv (.starting kept r rest due)
      (.started r.handler.toComponent :: es) sv' call
  | dropped {kept : HandlerTable} {r : Registration}
    {rest : List Registration} {due : Nat} {es : List Event}
    {sv' : Service} {call : ServiceCall} {message : String}
    (hr : r.handler.startPhase.ending = .failure message)
    (h : StartsNext now sv kept rest es sv' call) :
    StartupMove now sv (.starting kept r rest due) es sv' call
  | unwound {kept : HandlerTable} {r : Registration}
    {rest : List Registration} {due : Nat}
    (hr : r.handler.startPhase.ending = .panic) :
    StartupMove now sv (.starting kept r rest due) [] sv .unwound
  | published {table : HandlerTable} {due : Nat} :
    StartupMove now sv (.publishing table due)
      [.publish table.kindNames (.ok ())] (sv.launch table)
      (.returned (.ok ()))
  | unpublished {table : HandlerTable} {due : Nat} {e : Failure}
    {sv' : Service} {call : ServiceCall}
    (h : Undoes now sv table sv' call) :
    StartupMove now sv (.publishing table due)
      [.publish table.kindNames (.error e)] sv' call
  | undone {i : Nat} (hi : (sv.shutdownResult? i).isSome = true) :
    StartupMove now sv (.undoing i) [] (sv.launch .empty)
      (.returned (.ok ()))

section Effects

variable {now : Nat} {sv sv' : Service} {table kept : HandlerTable}
  {rest : List Registration} {es : List Event} {call : ServiceCall}

/-- What a step of a startup does to the worker and to the groups of
handlers that were told to stop: it takes up a new worker or none, and
tells one more group or none. -/
structure StartupEffect (now : Nat) (sv sv' : Service)
    (call : ServiceCall) : Prop where
  worker : sv'.worker = sv.worker
    ∨ ∃ table interval, sv'.worker = some (.launched table interval)
  shutdowns : sv'.shutdowns = sv.shutdowns
    ∨ ∃ d cs timeout terminate u,
      Shutdown.begin? now cs timeout terminate = .ok d
        ∧ sv'.shutdowns = sv.shutdowns ++ [d] ∧ call = .startup u

lemma Undoes.effect (h : Undoes now sv table sv' call) :
    StartupEffect now sv sv' call := by
  cases h with
  | nothing | refused => exact ⟨.inr ⟨_, _, rfl⟩, .inl rfl⟩
  | group _ hd => exact ⟨.inl rfl, .inr ⟨_, _, _, _, _, hd, rfl, rfl⟩⟩

lemma StartsNext.effect (h : StartsNext now sv kept rest es sv' call) :
    StartupEffect now sv sv' call := by
  cases h with
  | start | publish => exact ⟨.inl rfl, .inl rfl⟩
  | undo h => exact h.effect

lemma StartupMove.effect {u : Startup}
    (h : StartupMove now sv u es sv' call) :
    StartupEffect now sv sv' call := by
  cases h with
  | pass | passFailed | duplicate | unwound => exact ⟨.inl rfl, .inl rfl⟩
  | verified _ _ _ h =>
    obtain ⟨hw, hs⟩ := h.effect
    exact ⟨hw, hs⟩
  | started _ h | dropped _ h => exact h.effect
  | published | undone => exact ⟨.inr ⟨_, _, rfl⟩, .inl rfl⟩
  | unpublished h => exact h.effect

lemma StartsNext.isOfStartup (h : StartsNext now sv kept rest es sv' call) :
    ∀ e ∈ es, e.isOfStartup = true := by
  cases h with
  | start => exact List.forall_mem_singleton.2 rfl
  | publish | undo => exact List.forall_mem_nil _

lemma StartupMove.isOfStartup {u : Startup}
    (h : StartupMove now sv u es sv' call) :
    ∀ e ∈ es, e.isOfStartup = true := by
  have hpasses : ∀ e : Event, e.isOfPasses = true →
      e.isOfStartup = true := by
    intro e he
    cases e <;> first | rfl | cases he
  cases h with
  | pass _ _ hes | passFailed _ hes | duplicate _ hes =>
    exact fun e he => hpasses e (hes e he)
  | verified _ hes _ hn =>
    intro e he
    rcases List.mem_append.1 he with he | he
    · exact hpasses e (hes e he)
    · exact hn.isOfStartup e he
  | started _ hn =>
    intro e he
    rcases List.mem_cons.1 he with rfl | he
    · rfl
    · exact hn.isOfStartup e he
  | dropped _ hn => exact hn.isOfStartup
  | published | unpublished => exact List.forall_mem_singleton.2 rfl
  | unwound | undone => exact List.forall_mem_nil _

end Effects

namespace Startup

variable {σ : Type} {p : Platform σ} {site site' : Site σ} {sv : Service}

/-- The worker that a startup takes up is new, so that it can be
started. -/
lemma bringUp_eq (site : Site σ) (sv : Service) (table : HandlerTable) :
    bringUp site sv table = answer site (sv.launch table) (.ok ()) :=
  rfl

lemma undo_cases (site : Site σ) (sv : Service) (table : HandlerTable) :
    (undo site sv table).site = site
      ∧ Undoes site.now sv table (undo site sv table).service
        (undo site sv table).call := by
  simp only [undo, bringUp_eq]
  cases he : table.isEmpty with
  | true => exact ⟨rfl, .nothing he⟩
  | false =>
    rw [if_neg Bool.false_ne_true, Service.stopHandlers]
    cases hd : Shutdown.begin? site.now
        (table.handlers.map (·.toComponent))
        sv.config.handlersShutdownTimeout true with
    | ok d => exact ⟨rfl, .group he hd⟩
    | error e => exact ⟨rfl, .refused he hd⟩

lemma startNext_cases (site : Site σ) (sv : Service) (kept : HandlerTable)
    (rest : List Registration) :
    ∃ es, site.Enters es (startNext p site sv kept rest).site
      ∧ StartsNext site.now sv kept rest es
        (startNext p site sv kept rest).service
        (startNext p site sv kept rest).call := by
  cases rest with
  | cons r rest =>
    exact ⟨_, (Site.Enters.refl site).note _, .start⟩
  | nil =>
    rw [startNext, publish]
    split
    · exact ⟨[], .refl site, .publish⟩
    · obtain ⟨hsite, hu⟩ := undo_cases site sv kept
      refine ⟨[], ?_, .undo hu⟩
      rw [hsite]
      exact .refl site

/-- Calls that a startup makes in its passes, and then its next move. -/
def AfterPasses (site : Site σ) (sv : Service) (c : CallState σ) : Prop :=
  ∀ u, u.isInPasses = true → ∃ es, site.Enters es c.site
    ∧ StartupMove site.now sv u es c.service c.call

lemma afterPasses_verify {es : List Event} (hs : site.Enters es site')
    (hes : ∀ e ∈ es, e.isOfPasses = true) :
    AfterPasses site sv (verify p site' sv) := by
  intro u hu
  rw [verify]
  cases hv : HandlerTable.verify sv.candidates with
  | error e => exact ⟨es, hs, .duplicate hu hes hv⟩
  | ok table =>
    obtain ⟨es', hs', hn⟩ := startNext_cases (p := p) site'
      { sv with candidates := [] } .empty table.registrations
    rw [hs.now] at hn
    exact ⟨es ++ es', hs.trans hs', .verified hu hes hv hn⟩

lemma afterPasses_settleNext {es : List Event} (hs : site.Enters es site')
    (hes : ∀ e ∈ es, e.isOfPasses = true) (pass : Pass)
    (installed : List InstalledSoftware) (l : List Operation) :
    AfterPasses site sv (settleNext p site' sv pass installed l) := by
  cases l with
  | nil =>
    cases pass with
    | restarts => exact fun u hu => ⟨es, hs, .pass hu rfl hes⟩
    | software => exact afterPasses_verify hs hes
  | cons o rest =>
    intro u hu
    rw [settleNext]
    split
    · exact ⟨es, hs, .pass hu rfl hes⟩
    · exact ⟨es, hs, .passFailed hu hes⟩

lemma afterPasses_settleAll {es : List Event} (hs : site.Enters es site')
    (hes : ∀ e ∈ es, e.isOfPasses = true) (l : List Operation)
    (pass : Pass) : AfterPasses site sv (settleAll p site' sv l pass) := by
  cases pass with
  | restarts => exact afterPasses_settleNext hs hes _ _ _
  | software =>
    rw [settleAll]
    split
    · exact afterPasses_verify hs hes
    · exact fun u hu => ⟨es, hs, .pass hu rfl hes⟩

/-- What a startup does when its time has come is one of the moves. -/
theorem resume_cases {u : Startup}
    (hi : ∀ i, u = .undoing i → (sv.shutdownResult? i).isSome = true) :
    ∃ es, site.Enters es (u.resume p site sv).site
      ∧ StartupMove site.now sv u es (u.resume p site sv).service
        (u.resume p site sv).call := by
  cases u with
  | querying pass page found due =>
    have hs := Site.Enters.answered site
      (p.query site.world pass.kind .executing sv.config.pageSize page).2
      (.query pass.kind .executing sv.config.pageSize page
        (p.query site.world pass.kind .executing sv.config.pageSize page).1)
    have hes : ∀ e ∈ [Event.query pass.kind .executing sv.config.pageSize
        page (p.query site.world pass.kind .executing sv.config.pageSize
          page).1], e.isOfPasses = true :=
      List.forall_mem_singleton.2 rfl
    simp only [resume]
    split
    · exact ⟨_, hs, .passFailed rfl hes⟩
    · split
      · exact afterPasses_settleAll hs hes _ _ _ rfl
      · exact ⟨_, hs, .pass rfl rfl hes⟩
  | inspecting found due =>
    have hs := Site.Enters.answered site (p.installed site.world).2
      (.installed (p.installed site.world).1)
    have hes : ∀ e ∈ [Event.installed (p.installed site.world).1],
        e.isOfPasses = true :=
      List.forall_mem_singleton.2 rfl
    simp only [resume]
    split
    · exact ⟨_, hs, .passFailed rfl hes⟩
    · exact afterPasses_settleNext hs hes _ _ _ _ rfl
  | settling pass installed o rest due =>
    have hs := Site.Enters.answered site (p.update site.world o).2
      (.update o (p.update site.world o).1)
    have hes : ∀ e ∈ [Event.update o (p.update site.world o).1],
        e.isOfPasses = true :=
      List.forall_mem_singleton.2 rfl
    simp only [resume]
    split
    · exact ⟨_, hs, .passFailed rfl hes⟩
    · have hs' := hs.note (.counted (.reconciled pass.kind o.status))
      exact afterPasses_settleNext hs'
        (List.forall_mem_append.2 ⟨hes, List.forall_mem_singleton.2 rfl⟩) _ _
        _ _ rfl
  | starting kept r rest due =>
    simp only [resume]
    split
    · next hr =>
      have hs := (Site.Enters.refl site).note
        (.started r.handler.toComponent)
      obtain ⟨es, hs', hn⟩ := startNext_cases (p := p)
        (site.note (.started r.handler.toComponent)) sv
        (kept.push r) rest
      exact ⟨_, hs.trans hs', .started hr hn⟩
    · next hr =>
      obtain ⟨es, hs, hn⟩ := startNext_cases (p := p) site sv kept rest
      exact ⟨es, hs, .dropped hr hn⟩
    · next hr => exact ⟨[], .refl site, .unwound hr⟩
  | publishing table due =>
    have hs := Site.Enters.answered site
      (p.publish site.world table.kindNames).2
      (.publish table.kindNames (p.publish site.world table.kindNames).1)
    simp only [resume, Site.publish, bringUp_eq]
    cases hr : (p.publish site.world table.kindNames).1 with
    | ok u =>
      rw [hr] at hs
      exact ⟨_, hs, .published⟩
    | error e =>
      rw [hr] at hs
      obtain ⟨hsite, hu⟩ := undo_cases (site.answered
        (p.publish site.world table.kindNames).2
        (.publish table.kindNames (.error e))) sv table
      exact ⟨_, hsite.symm ▸ hs, .unpublished hu⟩
  | undoing i =>
    rw [resume, bringUp_eq]
    exact ⟨[], .refl site, .undone (hi i rfl)⟩

/-- A startup that takes a step makes one of the moves. -/
theorem step_cases {u : Startup} {c : CallState σ}
    (h : u.step p site sv = some c) : ∃ es, site.Enters es c.site
      ∧ StartupMove site.now sv u es c.service c.call := by
  rw [step] at h
  split at h
  · next hready =>
    obtain rfl := Option.some.inj h
    refine resume_cases fun i hi => ?_
    subst hi
    exact hready
  · cases h

/-- The first startup of a service begins. -/
theorem begin_cases (site : Site σ) (h : sv.begun = false) :
    ∃ call, begin p site sv = ⟨site, { sv with begun := true }, call⟩
      ∧ FirstCall sv.config call := by
  cases hv : sv.config.validate with
  | ok u =>
    have hbegin : begin p site sv
        = beginPass p site { sv with begun := true } .restarts := by
      simp [begin, h, hv]
    exact ⟨_, hbegin, .passes hv⟩
  | error e =>
    have hbegin : begin p site sv
        = answer site { sv with begun := true } (.error (.config e)) := by
      simp [begin, h, hv]
    exact ⟨_, hbegin, .refused hv⟩

end Startup

/-! ### Moves of taking the service down -/

/-- How the handlers that are at work are told to stop. -/
inductive Closes (now : Nat) (sv : Service) :
    Service → ServiceCall → Prop where
  | nothing (h : sv.active.isEmpty = true) :
    Closes now sv { sv with active := .empty } (.returned (.ok ()))
  | group {d : Shutdown} (h : sv.active.isEmpty = false)
    (hd : Shutdown.begin? now (sv.active.handlers.map (·.toComponent))
      sv.config.handlersShutdownTimeout true = .ok d) :
    Closes now sv
      { sv with active := .empty, shutdowns := sv.shutdowns ++ [d] }
      (.takedown (.stoppingHandlers sv.shutdowns.length))
  | refused {e : ShutdownError} (h : sv.active.isEmpty = false)
    (hd : Shutdown.begin? now (sv.active.handlers.map (·.toComponent))
      sv.config.handlersShutdownTimeout true = .error e) :
    Closes now sv { sv with active := .empty }
      (.returned (.error (.shutdown e)))

lemma Closes.worker_eq {now : Nat} {sv sv' : Service} {call : ServiceCall}
    (h : Closes now sv sv' call) : sv'.worker = sv.worker := by
  cases h <;> rfl

lemma Closes.active_eq {now : Nat} {sv sv' : Service} {call : ServiceCall}
    (h : Closes now sv sv' call) : sv'.active = .empty := by
  cases h <;> rfl

/-- How taking the service down goes on with a worker and what there is
still to wait for. -/
inductive Awaits (now : Nat) (sv : Service) (w : Worker)
    (t : Halt → Takedown) : Halt → Service → ServiceCall → Prop where
  | waits {h : Halt} (hh : h ≠ .returned) :
    Awaits now sv w t h { sv with worker := some w } (.takedown (t h))
  | goesOn {sv' : Service} {call : ServiceCall}
    (h : Closes now { sv with worker := some w } sv' call) :
    Awaits now sv w t .returned sv' call

/-- The service after a step of taking it down, and how that goes on.  The
site stays as it is. -/
inductive TakedownMove (now : Nat) (sv : Service) :
    Takedown → Service → ServiceCall → Prop where
  | finished {h h' : Halt} {deadline : Nat} {w w' : Worker} {sv' : Service}
    {call : ServiceCall} (hw : sv.worker = some w)
    (hr : w.resume h = some (w', h'))
    (ha : Awaits now sv w' (.stoppingWorker · deadline) h' sv' call) :
    TakedownMove now sv (.stoppingWorker h deadline) sv' call
  | abort {h : Halt} {deadline : Nat} {w : Worker} {sv' : Service}
    {call : ServiceCall} (hw : sv.worker = some w)
    (hr : w.resume h = none) (hdue : deadline ≤ now)
    (ha : Awaits now sv w.beginAbort.1
      (.abortingWorker · (Shutdown.grace.deadline now)) w.beginAbort.2 sv'
      call) :
    TakedownMove now sv (.stoppingWorker h deadline) sv' call
  | gone {h h' : Halt} {deadline : Nat} {w w' : Worker} {sv' : Service}
    {call : ServiceCall} (hw : sv.worker = some w)
    (hr : w.resume h = some (w', h'))
    (ha : Awaits now sv w' (.abortingWorker · deadline) h' sv' call) :
    TakedownMove now sv (.abortingWorker h deadline) sv' call
  | leave {h : Halt} {deadline : Nat} {w : Worker} {sv' : Service}
    {call : ServiceCall} (hw : sv.worker = some w)
    (hr : w.resume h = none) (hdue : deadline ≤ now)
    (hc : Closes now sv sv' call) :
    TakedownMove now sv (.abortingWorker h deadline) sv' call
  | stopped {i : Nat} {r : Except ShutdownError Unit}
    (hr : sv.shutdownResult? i = some r) :
    TakedownMove now sv (.stoppingHandlers i) sv
      (.returned (r.mapError .shutdown))

namespace Takedown

variable {σ : Type} {site : Site σ} {sv : Service}

lemma stopHandlers_cases (site : Site σ) (sv : Service) :
    (stopHandlers site sv).site = site
      ∧ Closes site.now sv (stopHandlers site sv).service
        (stopHandlers site sv).call := by
  rw [stopHandlers]
  cases he : sv.active.isEmpty with
  | true => exact ⟨rfl, .nothing he⟩
  | false =>
    simp only [Bool.false_eq_true, if_false, Service.stopHandlers]
    cases hd : Shutdown.begin? site.now
        (sv.active.handlers.map (·.toComponent))
        sv.config.handlersShutdownTimeout true with
    | ok d => exact ⟨rfl, .group he hd⟩
    | error e => exact ⟨rfl, .refused he hd⟩

lemma await_cases (site : Site σ) (sv : Service) (w : Worker) (h : Halt)
    (t : Halt → Takedown) : (await site sv w h t).site = site
      ∧ Awaits site.now sv w t h (await site sv w h t).service
        (await site sv w h t).call := by
  rw [await]
  by_cases hh : h = .returned
  · subst hh
    obtain ⟨hsite, hc⟩ :=
      stopHandlers_cases site { sv with worker := some w }
    exact ⟨hsite, .goesOn hc⟩
  · rw [if_neg hh]
    exact ⟨rfl, .waits hh⟩

/-- A step of taking the service down is one of the moves. -/
theorem step_cases {t : Takedown} {c : CallState σ}
    (h : t.step site sv = some c) :
    c.site = site ∧ TakedownMove site.now sv t c.service c.call := by
  cases t with
  | stoppingWorker halt deadline =>
    obtain ⟨w, hw, hrest⟩ := Option.bind_eq_some_iff.1 h
    split at hrest
    · next w' h' hr =>
      obtain rfl := Option.some.inj hrest
      obtain ⟨hsite, ha⟩ :=
        await_cases site sv w' h' (.stoppingWorker · deadline)
      exact ⟨hsite, .finished hw hr ha⟩
    · next hr =>
      split at hrest
      · next hdue =>
        obtain rfl := Option.some.inj hrest
        obtain ⟨hsite, ha⟩ := await_cases site sv w.beginAbort.1
          w.beginAbort.2
          (.abortingWorker · (Shutdown.grace.deadline site.now))
        exact ⟨hsite, .abort hw hr hdue ha⟩
      · cases hrest
  | abortingWorker halt deadline =>
    obtain ⟨w, hw, hrest⟩ := Option.bind_eq_some_iff.1 h
    split at hrest
    · next w' h' hr =>
      obtain rfl := Option.some.inj hrest
      obtain ⟨hsite, ha⟩ :=
        await_cases site sv w' h' (.abortingWorker · deadline)
      exact ⟨hsite, .gone hw hr ha⟩
    · next hr =>
      split at hrest
      · next hdue =>
        obtain rfl := Option.some.inj hrest
        obtain ⟨hsite, hc⟩ := stopHandlers_cases site sv
        exact ⟨hsite, .leave hw hr hdue hc⟩
      · cases hrest
  | stoppingHandlers i =>
    obtain ⟨r, hr, hrest⟩ := Option.bind_eq_some_iff.1 h
    cases r with
    | ok u =>
      obtain rfl := Option.some.inj hrest
      exact ⟨rfl, .stopped hr⟩
    | error e =>
      obtain rfl := Option.some.inj hrest
      exact ⟨rfl, .stopped hr⟩

/-- Taking the service down begins with its worker, if it has one. -/
theorem begin_cases (site : Site σ) (sv : Service) :
    (begin site sv).site = site
      ∧ (sv.worker = none ∧ Closes site.now sv (begin site sv).service
          (begin site sv).call
        ∨ ∃ w, sv.worker = some w ∧ Awaits site.now sv w.beginStop.1
          (.stoppingWorker · (sv.config.shutdownTimeout.deadline site.now))
          w.beginStop.2 (begin site sv).service (begin site sv).call) := by
  cases hw : sv.worker with
  | none =>
    have hb : begin site sv = stopHandlers site sv := by
      simp only [begin, hw]
    obtain ⟨hsite, hc⟩ := stopHandlers_cases site sv
    rw [hb]
    exact ⟨hsite, .inl ⟨rfl, hc⟩⟩
  | some w =>
    have hb : begin site sv = await site sv w.beginStop.1 w.beginStop.2
        (.stoppingWorker · (sv.config.shutdownTimeout.deadline site.now)) := by
      simp only [begin, hw]
    obtain ⟨hsite, ha⟩ := await_cases site sv w.beginStop.1 w.beginStop.2
      (.stoppingWorker · (sv.config.shutdownTimeout.deadline site.now))
    rw [hb]
    exact ⟨hsite, .inr ⟨w, rfl, ha⟩⟩

end Takedown

/-! ### Moves of all tasks -/

/-- The step of a task of a service or of one of its callers. -/
inductive ServiceMove {σ : Type} (p : Platform σ) (s : ServiceSystem σ) :
    ServiceSystem σ → Prop where
  | loop {i : Nat} {w w' : Worker} {site : Site σ}
    (hw : s.service.worker = some w)
    (hs : Worker.stepLoop p s.site w i = some (site, w')) :
    ServiceMove p s
      { s with site, service := { s.service with worker := some w' } }
  | call {i : Nat} {w w' : Worker} {site : Site σ}
    (hw : s.service.worker = some w)
    (hs : Worker.stepCall p s.site w i = some (site, w')) :
    ServiceMove p s
      { s with site, service := { s.service with worker := some w' } }
  | stop {group i : Nat} {d d' : Shutdown} {site : Site σ}
    (hd : s.service.shutdowns[group]? = some d)
    (hs : d.stepTask s.site i = some (site, d')) :
    ServiceMove p s ({ s with site }.setShutdown group d')
  | wait {group : Nat} {d d' : Shutdown}
    (hd : s.service.shutdowns[group]? = some d)
    (hs : d.stepWait s.site.now = some d') :
    ServiceMove p s (s.setShutdown group d')
  | caller {i : Nat} {c : ServiceCall} {c' : CallState σ}
    (hc : s.callers[i]? = some c) (hs : s.stepCall p c = some c') :
    ServiceMove p s {
      site := ServiceSystem.noteReturn c'.site i c'.call
      service := c'.service
      callers := s.callers.set i c'.call }

/-- A task that takes a step makes one of the moves. -/
theorem ServiceSystem.step_cases {σ : Type} {p : Platform σ}
    {s s' : ServiceSystem σ} {t : ServiceTask} (hs : step p s t = some s') :
    ServiceMove p s s' := by
  cases t with
  | loop i =>
    obtain ⟨w, hw, hrest⟩ := Option.bind_eq_some_iff.1 hs
    obtain ⟨⟨site, w'⟩, ha, hs'⟩ := Option.bind_eq_some_iff.1 hrest
    obtain rfl := Option.some.inj hs'
    exact .loop hw ha
  | call i =>
    obtain ⟨w, hw, hrest⟩ := Option.bind_eq_some_iff.1 hs
    obtain ⟨⟨site, w'⟩, ha, hs'⟩ := Option.bind_eq_some_iff.1 hrest
    obtain rfl := Option.some.inj hs'
    exact .call hw ha
  | stop group i =>
    obtain ⟨d, hd, hrest⟩ := Option.bind_eq_some_iff.1 hs
    obtain ⟨⟨site, d'⟩, ha, hs'⟩ := Option.bind_eq_some_iff.1 hrest
    obtain rfl := Option.some.inj hs'
    exact .stop hd ha
  | wait group =>
    obtain ⟨d, hd, hrest⟩ := Option.bind_eq_some_iff.1 hs
    obtain ⟨d', ha, hs'⟩ := Option.bind_eq_some_iff.1 hrest
    obtain rfl := Option.some.inj hs'
    exact .wait hd ha
  | caller i =>
    obtain ⟨c, hc, hrest⟩ := Option.bind_eq_some_iff.1 hs
    obtain ⟨c', ha, hs'⟩ := Option.bind_eq_some_iff.1 hrest
    obtain rfl := Option.some.inj hs'
    exact .caller hc ha

end RemoteOps
