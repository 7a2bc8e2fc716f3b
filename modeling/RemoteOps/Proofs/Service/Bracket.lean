/-
When the handlers of a service are started, called and stopped.

A handler is called after it has started and before any handler is told
to stop.  When one is told to stop, no call is open: the worker has
exited with all its calls, or never had a handler.  And all handlers that
have started are told to stop, once each, by the first stop or by the
startup that could publish nothing.

* `CallsInTime`: the calls of handlers in their order with the other
  events;
* `ServiceSystem.Attended`, `ServiceSystem.Bracket`: the invariant of a
  service that is started once and stopped again and again;
* `ServiceSystem.kept_bracket`: every move keeps it;
* `ServiceSystem.brackets_of_life`: what callers and the journal show of
  it.
-/
import RemoteOps.Proofs.Platform.Hosted
import RemoteOps.Proofs.Service.Roster
import RemoteOps.Proofs.Service.Runs
import RemoteOps.Proofs.Worker.Manned

namespace RemoteOps

/-! ### Calls in time -/

/-- A handler may be called after some events: it serves and has started,
and nobody was told to stop. -/
structure MayBeCalled (cs : List Handler) (before : List Event)
    (h : Handler) : Prop where
  serving : h ∈ servingHandlers cs
  started : .started h.toComponent ∈ before
  untold : ∀ c, .stop c ∉ before

/-- Handlers are called only when they may be. -/
def CallsInTime (cs : List Handler) (es : List Event) : Prop :=
  ∀ before h t after, es = before ++ .execute h t :: after →
    MayBeCalled cs before h

lemma CallsInTime.append {cs : List Handler} {es es' : List Event}
    (h : CallsInTime cs es)
    (h' : ∀ before hd t after, es' = before ++ .execute hd t :: after →
      MayBeCalled cs (es ++ before) hd) : CallsInTime cs (es ++ es') := by
  intro before hd t after heq
  rcases append_eq_append_cons heq with ⟨l, hl, -⟩ | ⟨l, rfl, hl⟩
  · exact h before hd t l hl
  · exact h' l hd t after hl

/-- Events without a call change nothing. -/
lemma CallsInTime.append_of_forall_ne {cs : List Handler}
    {es es' : List Event} (h : CallsInTime cs es)
    (hes : ∀ e ∈ es', ∀ hd t, e ≠ .execute hd t) :
    CallsInTime cs (es ++ es') :=
  h.append fun before hd t after heq =>
    absurd rfl (hes (.execute hd t) (by simp [heq]) hd t)

/-! ### Present calls -/

/-- The halts for which a call of the service waits. -/
def ServiceCall.halts : ServiceCall → List Halt
  | .takedown (.stoppingWorker h _) | .takedown (.abortingWorker h _) => [h]
  | .takedown (.stoppingHandlers _) | .startup _ | .returned _
  | .unwound => []

/-- Whether a call may wait for handlers to stop. -/
def ServiceCall.mayWait : ServiceCall → Bool
  | .startup _ | .takedown (.stoppingHandlers _) => true
  | .takedown (.stoppingWorker _ _) | .takedown (.abortingWorker _ _)
  | .returned _ | .unwound => false

/-- What a call relies on: who aborts has time left, since what it waits
for is being cut off; and only the first stop tells handlers to stop. -/
def ServiceCall.ReliesOn (n now : Nat) (sv : Service) : ServiceCall → Prop
  | .takedown (.stoppingWorker h _) => ∃ i, h = .awaitingExit i
  | .takedown (.abortingWorker h deadline) => now < deadline
    ∧ ∃ w, sv.worker = some w ∧ w.CutOff h
  | .takedown (.stoppingHandlers _) => n = 1 ∧ sv.active = .empty
  | .startup _ | .returned _ | .unwound => True

lemma Worker.manned_launched (table : HandlerTable) (interval : Span) :
    (Worker.launched table interval).Manned where
  claiming o t h due hph := by cases hph
  calls c hc := by cases hc

namespace ServiceSystem

variable {σ : Type} {p : Platform σ} {site site' : Site σ} {n now i : Nat}
  {sv sv' : Service} {call : ServiceCall} {w w' : Worker} {world : σ}
  {config : Config} {hasInventory : Bool} {cs : List Handler}
  {s : ServiceSystem σ} {halts : List Halt} {es : List Event}

/-! ### The invariant -/

/-- The handlers of a service are attended to: they are told to stop
promptly, and the worker is quiet by then. -/
structure Attended (cs : List Handler) (site : Site σ) (sv : Service)
    (halts : List Halt) : Prop where
  groups : ∀ d ∈ sv.shutdowns, d.Prompt site.now site.journal.told
  untold : sv.shutdowns = [] → site.journal.told = []
  engaged : ∀ w, sv.worker = some w → w.Engaged halts
  manned : ∀ w, sv.worker = some w → w.Manned
  quiet : ∀ w, sv.worker = some w → sv.shutdowns ≠ [] → w.Quiet
  calls : CallsInTime cs site.journal.events

/-- A service that is started once and stopped again and again. -/
structure Bracket (cs : List Handler) (n : Nat) (site : Site σ)
    (sv : Service) (call : ServiceCall) : Prop where
  roster : OnRoster cs n site sv call
  attended : Attended cs site sv call.halts
  reliesOn : call.ReliesOn n site.now sv
  finished : call.mayWait = false →
    ∀ d ∈ sv.shutdowns, d.result?.isSome = true
  /-- After the first stop no handler is at work. -/
  down : 1 < n ∨ n = 1 ∧ call.isOver = true → sv.active = .empty

namespace Attended

/-- Events that tell nobody to stop and call nobody. -/
lemma enters (h : Attended cs site sv halts) (he : site.Enters es site')
    (hstop : ∀ e ∈ es, e.stop? = none)
    (hcall : ∀ e ∈ es, ∀ hd t, e ≠ .execute hd t) :
    Attended cs site' sv halts := by
  have htold : site'.journal.told = site.journal.told := by
    rw [he.told, List.filterMap_eq_nil_iff.2 hstop, List.append_nil]
  exact { h with
    groups := fun d hd => by
      rw [he.now, htold]
      exact h.groups d hd
    untold := fun hnil => htold.trans (h.untold hnil)
    calls := by
      rw [he.events]
      exact h.calls.append_of_forall_ne hcall }

/-- No events, but another worker. -/
lemma setWorker (h : Attended cs site sv halts) {halts' : List Halt}
    (hengaged : w'.Engaged halts') (hmanned : w'.Manned)
    (hquiet : sv.shutdowns ≠ [] → w'.Quiet) :
    Attended cs site { sv with worker := some w' } halts' where
  groups := h.groups
  untold := h.untold
  engaged w hw := by
    obtain rfl := Option.some.inj hw
    exact hengaged
  manned w hw := by
    obtain rfl := Option.some.inj hw
    exact hmanned
  quiet w hw hne := by
    obtain rfl := Option.some.inj hw
    exact hquiet hne
  calls := h.calls

end Attended

/-! ### Moves of the worker -/

lemma stop?_of_isOfWorker {e : Event} (h : e.isOfWorker = true) :
    e.stop? = none := by
  cases e <;> first | rfl | cases h

/-- A loop calls nobody itself. -/
lemma ne_execute_of_loopMove {w₁ : Worker} {ph ph' : LoopPhase}
    {new : List Event} (hm : LoopMove w ph new w₁ ph') :
    ∀ e ∈ new, ∀ hd t, e ≠ .execute hd t := by
  intro e he hd t
  cases hm with
  | begin | wake | conclude => cases he
  | pollFailed | nothing | refuse | reject | accept | rejected | claimed
  | unclaimed | reported =>
    rw [List.mem_singleton.1 he]
    exact Event.noConfusion

lemma Attended.stepLoop (h : Attended cs site sv halts)
    (hw : sv.worker = some w)
    (hs : Worker.stepLoop p site w i = some (site', w')) :
    Attended cs site' { sv with worker := some w' } halts := by
  have hengaged := h.engaged w hw
  have hearlier := hengaged.one.earlier
  have h' := h.setWorker (hengaged.stepLoop hs)
    ((h.manned w hw).stepLoop hearlier hs)
    fun hne => (h.quiet w hw hne).stepLoop hearlier hs
  obtain ⟨l, -, -, hcases⟩ := Worker.stepLoop_cases hs
  rcases hcases with ⟨-, rfl, -⟩ | ⟨-, new, w₁, seen, ph, hm, hg, -⟩
  · exact h'
  · obtain ⟨es, he, hnew, hes⟩ := hg.enters
    refine h'.enters he (fun e hmem => stop?_of_isOfWorker (hes e hmem))
      fun e hmem hd t hex => ?_
    refine ne_execute_of_loopMove hm e ?_ hd t hex
    rw [← hnew, List.mem_filter, hex]
    exact ⟨hex ▸ hmem, rfl⟩

/-- A change of the worker does not concern what a call relies on, as long
as what is to be cut off stays so. -/
lemma reliesOn_setWorker (h : call.ReliesOn n now sv)
    (hw : sv.worker = some w)
    (hcut : ∀ halt ∈ call.halts, w.CutOff halt → w'.CutOff halt) :
    call.ReliesOn n now { sv with worker := some w' } := by
  cases call with
  | startup | returned | unwound => trivial
  | takedown t =>
    cases t with
    | stoppingWorker | stoppingHandlers => exact h
    | abortingWorker halt deadline =>
      obtain ⟨hlt, w₀, hw₀, hcut₀⟩ := h
      obtain rfl := Option.some.inj (hw₀.symm.trans hw)
      exact ⟨hlt, w', rfl, hcut halt (List.mem_singleton_self _) hcut₀⟩

/-- Who is called serves and has started. -/
lemma OnRoster.mayBeCalled (h : OnRoster cs n site sv call)
    (hw : sv.worker = some w) {hd : Handler} (hmem : hd ∈ w.table.handlers)
    (htold : site.journal.told = []) :
    MayBeCalled cs site.journal.events hd := by
  obtain ⟨t, hrisen⟩ := Roster.risen h hw
  have hmem' : hd ∈ t.handlers := by
    rcases hrisen.table with ⟨htab, -⟩ | ⟨htab, -⟩
    · exact htab ▸ hmem
    · rw [htab] at hmem
      cases hmem
  refine ⟨hrisen.kept.handlers ▸ hmem', ?_, fun c hc => ?_⟩
  · rw [← Journal.mem_started, hrisen.started]
    exact List.mem_map_of_mem hmem'
  · rw [← Journal.mem_told, htold] at hc
    cases hc

lemma Attended.stepCall (h : Attended cs site sv halts)
    (hr : OnRoster cs n site sv call) (hw : sv.worker = some w)
    (hs : Worker.stepCall p site w i = some (site', w')) :
    Attended cs site' { sv with worker := some w' } halts := by
  have hmanned := h.manned w hw
  -- a quiet worker has no call that could take a step
  have hnil : sv.shutdowns = [] := by
    by_contra hne
    rw [(h.quiet w hw hne).stepCall_eq_none hmanned] at hs
    cases hs
  have hengaged := (h.engaged w hw).stepCall hs
  have hmanned' := hmanned.stepCall hs
  obtain ⟨c, new, ph, hc, hm, hg, -⟩ := Worker.stepCall_cases hs
  obtain ⟨es, he, hnew, hes⟩ := hg.enters
  have hstop : ∀ e ∈ es, e.stop? = none := fun e hmem =>
    stop?_of_isOfWorker (hes e hmem)
  have htold : site'.journal.told = [] := by
    rw [he.told, List.filterMap_eq_nil_iff.2 hstop, h.untold hnil]
    rfl
  have hcalls : CallsInTime cs site'.journal.events := by
    rw [he.events]
    refine h.calls.append fun before hd t after heq => ?_
    have hmem : Event.execute hd t ∈ new := by
      rw [← hnew, List.mem_filter]
      exact ⟨by simp [heq], rfl⟩
    cases hm with
    | cut | finish => cases hmem
    | begin =>
      obtain ⟨rfl, rfl⟩ : hd = c.handler ∧ t = c.operation := by
        simpa using hmem
      have hcall := hr.mayBeCalled hw (hmanned.calls c.core
        (List.mem_of_getElem? (Worker.cores_getElem? hc))) (h.untold hnil)
      refine ⟨hcall.serving, List.mem_append_left _ hcall.started,
        fun c' hc' => ?_⟩
      rcases List.mem_append.1 hc' with hc' | hc'
      · exact hcall.untold c' hc'
      · have := hstop (.stop c') (by simp [heq, hc'])
        cases this
  exact {
    groups := fun d hd => by
      have hd' : d ∈ sv.shutdowns := hd
      rw [hnil] at hd'
      cases hd'
    untold := fun _ => htold
    engaged := fun w₁ hw₁ => Option.some.inj hw₁ ▸ hengaged
    manned := fun w₁ hw₁ => Option.some.inj hw₁ ▸ hmanned'
    quiet := fun w₁ _ hne => absurd hnil hne
    calls := hcalls }

/-! ### Moves of a group -/

/-- The group of handlers that were told to stop is replaced. -/
lemma Attended.setShutdown (h : Attended cs site sv halts)
    (hr : OnRoster cs n site sv call) {group : Nat} {d d' : Shutdown}
    (hd : sv.shutdowns[group]? = some d) (he : site.Enters es site')
    (hp : d'.Prompt site.now site'.journal.told)
    (hes : ∀ e ∈ es, ∀ hd t, e ≠ .execute hd t) :
    Attended cs site'
      { sv with shutdowns := sv.shutdowns.set group d' } halts := by
  obtain ⟨hsd, hset⟩ := Roster.set_shutdowns hr hd d'
  exact {
    groups := fun d₁ hd₁ => by
      have hd₁' : d₁ ∈ sv.shutdowns.set group d' := hd₁
      rw [hset, List.mem_singleton] at hd₁'
      rw [hd₁', he.now]
      exact hp
    untold := fun hnil => by
      have hnil' : sv.shutdowns.set group d' = [] := hnil
      rw [hset] at hnil'
      cases hnil'
    engaged := h.engaged
    manned := h.manned
    quiet := fun w hw _ => h.quiet w hw (by simp [hsd])
    calls := by
      rw [he.events]
      exact h.calls.append_of_forall_ne hes }

lemma Bracket.stopTask {group : Nat} {d d' : Shutdown}
    (h : Bracket cs n site sv call)
    (hroster : OnRoster cs n site'
      { sv with shutdowns := sv.shutdowns.set group d' } call)
    (hd : sv.shutdowns[group]? = some d)
    (hs : Shutdown.stepTask site d i = some (site', d')) :
    Bracket cs n site'
      { sv with shutdowns := sv.shutdowns.set group d' } call := by
  have hmem := List.mem_of_getElem? hd
  obtain ⟨es, he, hp, hes⟩ := (h.attended.groups d hmem).stepTask hs
  rw [← he.told] at hp
  refine {
    roster := hroster
    attended := h.attended.setShutdown h.roster hd he hp
      fun e hmem hd t => ?_
    reliesOn := ?_
    finished := fun hw => forall_mem_set (h.finished hw) (by
      rw [Shutdown.result?_stepTask hs]
      exact h.finished hw d hmem) group
    down := h.down }
  · rcases hes e hmem with ⟨c, rfl⟩ | ⟨c, rfl⟩ <;> exact Event.noConfusion
  · rw [he.now]
    exact h.reliesOn

lemma Bracket.wait {group : Nat} {d d' : Shutdown}
    (h : Bracket cs n site sv call)
    (hroster : OnRoster cs n site
      { sv with shutdowns := sv.shutdowns.set group d' } call)
    (hd : sv.shutdowns[group]? = some d)
    (hs : Shutdown.stepWait site.now d = some d') : Bracket cs n site
      { sv with shutdowns := sv.shutdowns.set group d' } call := by
  have hmem := List.mem_of_getElem? hd
  refine {
    roster := hroster
    attended := h.attended.setShutdown h.roster hd (.refl site)
      ((h.attended.groups d hmem).stepWait hs) fun e he => by cases he
    reliesOn := h.reliesOn
    finished := fun hw => ?_
    down := h.down }
  rw [Shutdown.stepWait_of_finished (h.finished hw d hmem)] at hs
  cases hs

/-! ### The clock -/

/-- Whichever handlers are still to be told have time left at some
moment. -/
def TellsInTime (s : ServiceSystem σ) (now : Nat) : Prop :=
  ∀ d ∈ s.service.shutdowns, d.TellsInTime now

instance (s : ServiceSystem σ) (now : Nat) : Decidable (s.TellsInTime now) :=
  inferInstanceAs (Decidable (∀ d ∈ s.service.shutdowns, d.TellsInTime now))

/-- A handler that was not told yet does not let the clock move. -/
lemma tellsInTime_of_idle (hidle : (machine p).Idle s) (now : Nat) :
    s.TellsInTime now := fun _ hd =>
  Shutdown.tellsInTime_of_idle (stepTask_of_idle hidle hd) now

/-- Who aborts does not let the clock move. -/
lemma not_idle_of_cutOff {halt : Halt} {deadline : Nat}
    (hc : s.callers[i]? = some (.takedown (.abortingWorker halt deadline)))
    (hw : s.service.worker = some w) (hcut : w.CutOff halt) :
    ¬ (machine p).Idle s := by
  intro hidle
  rcases hcut.exists_step p s.site with hr | ⟨k, hk⟩ | ⟨k, hk⟩
  · have hnone := stepCaller_of_idle hidle (List.mem_of_getElem? hc)
    obtain ⟨⟨w', h'⟩, hres⟩ := Option.ne_none_iff_exists'.1 hr
    simp [stepCall, Takedown.step, hw, hres] at hnone
  · exact hk (stepLoop_of_idle hidle hw k)
  · exact hk (stepCall_of_idle hidle hw k)

/-- What a call relies on does not change with the clock. -/
lemma reliesOn_of_idle (d : Nat) (hc : s.callers[i]? = some call)
    (hidle : (machine p).Idle s)
    (h : call.ReliesOn n s.site.now s.service) :
    call.ReliesOn n d s.service := by
  cases call with
  | startup | returned | unwound => trivial
  | takedown t =>
    cases t with
    | stoppingWorker | stoppingHandlers => exact h
    | abortingWorker halt deadline =>
      obtain ⟨-, w, hw, hcut⟩ := h
      exact absurd hidle (not_idle_of_cutOff hc hw hcut)

/-- Time passes. -/
lemma Bracket.clock {d : Nat} (h : Bracket cs n site sv call)
    (htell : ∀ g ∈ sv.shutdowns, g.TellsInTime d)
    (hrelies : call.ReliesOn n d sv) :
    Bracket cs n { site with now := d } sv call where
  roster := h.roster
  attended := { h.attended with
    groups := fun g hg => (h.attended.groups g hg).clock (htell g hg) }
  reliesOn := hrelies
  finished := h.finished
  down := h.down

/-! ### Moves of a startup -/

lemma stop?_of_isOfStartup {e : Event} (h : e.isOfStartup = true) :
    e.stop? = none := by
  cases e <;> first | rfl | cases h

lemma ne_execute_of_isOfStartup {e : Event} (h : e.isOfStartup = true)
    (hd : Handler) (t : TypedOperation) : e ≠ .execute hd t := by
  rintro rfl
  cases h

/-- Workers that a startup takes up are new, and find nobody at work who was
told to stop. -/
lemma Attended.launch (h : Attended cs site sv halts)
    (hroster : OnRoster cs 0 site sv' call)
    (hworker : ∀ w, sv'.worker = some w →
      ∃ table interval, w = .launched table interval)
    (hgroups : ∀ d ∈ sv'.shutdowns, d.Prompt site.now site.journal.told)
    (huntold : sv'.shutdowns = [] → site.journal.told = []) :
    Attended cs site sv' [] where
  groups := hgroups
  untold := huntold
  engaged w hw := by
    obtain ⟨table, interval, rfl⟩ := hworker w hw
    exact (Worker.Engaged.new table interval).start
      (fun c hc => by cases hc) rfl
  manned w hw := by
    obtain ⟨table, interval, rfl⟩ := hworker w hw
    exact Worker.manned_launched table interval
  quiet w hw hne := by
    obtain ⟨t, hrisen⟩ := Roster.risen hroster hw
    refine .inl ?_
    rw [← hrisen.active rfl]
    rcases hrisen.groups with ⟨hnil, -⟩ | ⟨d, -, -, ha⟩
    · exact absurd hnil hne
    · exact ha
  calls := h.calls

/-- A startup that goes on. -/
lemma Bracket.startup {u : Startup} {c : CallState σ}
    (h : Bracket cs n site sv (.startup u))
    (hroster : OnRoster cs n c.site c.service c.call)
    (he : site.Enters es c.site)
    (hm : StartupMove site.now sv u es c.service c.call) :
    Bracket cs n c.site c.service c.call := by
  obtain rfl : n = 0 := h.roster.1
  have hatt := h.attended.enters he
    (fun e hmem => stop?_of_isOfStartup (hm.isOfStartup e hmem))
    fun e hmem => ne_execute_of_isOfStartup (hm.isOfStartup e hmem)
  have hshut := Roster.shutdowns_of_effect hroster hm.effect
  have hworker : ∀ w, c.service.worker = some w →
      ∃ table interval, w = .launched table interval := fun w hw => by
    rcases hm.effect.worker with hsame | ⟨table, interval, hsome⟩
    · rw [hsame, h.roster.2.worker] at hw
      cases hw
    · exact ⟨table, interval, (Option.some.inj (hsome.symm.trans hw)).symm⟩
  have hgroups : ∀ d ∈ c.service.shutdowns,
      d.Prompt c.site.now c.site.journal.told := fun d hd => by
    rcases hshut with hsame | ⟨hnil, d', _, _, _, _, hb, hsd, -⟩
    · exact hatt.groups d (hsame ▸ hd)
    · rw [hsd, List.mem_singleton] at hd
      rw [hd, he.now, hatt.untold hnil]
      exact .begin hb
  have huntold : c.service.shutdowns = [] → c.site.journal.told = [] :=
    fun hnil => by
    rcases hshut with hsame | ⟨hnil', -⟩
    · exact hatt.untold (hsame.symm.trans hnil)
    · exact hatt.untold hnil'
  have hatt' := hatt.launch hroster hworker hgroups huntold
  have hnotake := Roster.ne_takedown hroster
  refine {
    roster := hroster
    attended := ?_
    reliesOn := ?_
    finished := fun hw d hd => ?_
    down := ?_ }
  · cases hc : c.call with
    | startup | returned | unwound => exact hatt'
    | takedown t => exact absurd hc (hnotake t)
  · cases hc : c.call with
    | startup | returned | unwound => trivial
    | takedown t => exact absurd hc (hnotake t)
  · rcases hshut with hsame | ⟨-, _, _, _, _, u', -, -, hu⟩
    · exact h.roster.2.forall_finished hm d (hsame ▸ hd)
    · rw [hu] at hw
      cases hw
  · rintro (hlt | ⟨h1, -⟩)
    · omega
    · cases h1

/-! ### Taking the service down -/

/-- The handlers that are at work are told to stop when the worker is
quiet. -/
lemma Attended.closes (h : Attended cs site sv [])
    (hquiet : ∀ w, sv.worker = some w → w.Quiet)
    (hnil : sv.active.isEmpty = false → sv.shutdowns = [])
    (hfinished : ∀ d ∈ sv.shutdowns, d.result?.isSome = true)
    (hn : 0 < n) (hdown : 1 < n → sv.active = .empty)
    (hc : Closes site.now sv sv' call)
    (hroster : OnRoster cs n site sv' call) :
    Bracket cs n site sv' call := by
  cases hc with
  | nothing | refused =>
    exact {
      roster := hroster
      attended := { h with }
      reliesOn := trivial
      finished := fun _ => hfinished
      down := fun _ => rfl }
  | @group d he hd =>
    have hsd := hnil he
    exact {
      roster := hroster
      attended := {
        groups := fun d' hd' => by
          have hmem : d' ∈ sv.shutdowns ++ [d] := hd'
          rw [hsd, List.nil_append, List.mem_singleton] at hmem
          rw [hmem, h.untold hsd]
          exact .begin hd
        untold := fun hno => by
          have hno' : sv.shutdowns ++ [d] = [] := hno
          simp at hno'
        engaged := h.engaged
        manned := h.manned
        quiet := fun w hw _ => hquiet w hw
        calls := h.calls }
      reliesOn := by
        refine ⟨?_, rfl⟩
        have hle : ¬ 1 < n := fun hlt => by
          rw [hdown hlt] at he
          cases he
        omega
      finished := fun hw => by cases hw
      down := fun _ => rfl }

/-- Taking the service down goes on with its worker: it waits, or goes on
to the handlers when the loop has exited. -/
lemma Bracket.await {m : Nat} {halt : Halt} {t : Halt → Takedown}
    {call' : ServiceCall} (h : Bracket cs n site sv call)
    (hcall : call.mayWait = false) (hw : sv.worker = some w)
    (hsame : w.SameTasks w') (hengaged : w'.Engaged [halt])
    (hexited : halt = .returned → w'.phase = .exited)
    (hm : 0 < m) (hdown : 1 < m → sv.active = .empty)
    (hhalts : ServiceCall.halts (.takedown (t halt)) = [halt])
    (hrelies : halt ≠ .returned → ServiceCall.ReliesOn m site.now
      { sv with worker := some w' } (.takedown (t halt)))
    (ha : Awaits site.now sv w' t halt sv' call')
    (hroster : OnRoster cs m site sv' call') :
    Bracket cs m site sv' call' := by
  have hmanned := (h.attended.manned w hw).congr hsame
  have hquiet : sv.shutdowns ≠ [] → w'.Quiet := fun hne =>
    (h.attended.quiet w hw hne).congr hsame
  cases ha with
  | waits hh =>
    exact {
      roster := hroster
      attended := hhalts ▸ h.attended.setWorker hengaged hmanned hquiet
      reliesOn := hrelies hh
      finished := fun _ => h.finished hcall
      down := fun hd => by
        rcases hd with hlt | ⟨-, hover⟩
        · exact hdown hlt
        · cases hover }
  | goesOn hc =>
    have hengaged' := Worker.Engaged.of_returned (A := []) (B := []) hengaged
    have hnil := Roster.shutdowns_eq_nil h.roster
    refine (h.attended.setWorker hengaged' hmanned hquiet).closes
      (fun w₁ hw₁ => ?_) hnil (h.finished hcall) hm hdown hc hroster
    obtain rfl := Option.some.inj hw₁
    exact .of_exited hengaged' (hexited rfl)

lemma Bracket.takedown {t : Takedown}
    (h : Bracket cs n site sv (.takedown t))
    (hroster : OnRoster cs n site sv' call)
    (hm : TakedownMove site.now sv t sv' call) :
    Bracket cs n site sv' call := by
  have hn : 0 < n := h.roster.1
  have hdown : 1 < n → sv.active = .empty := fun hlt => h.down (.inl hlt)
  -- who goes on finds that the loop has exited
  have hexited : ∀ {w w' : Worker} {halt h' : Halt}, w.Engaged [halt] →
      w.resume halt = some (w', h') → w'.phase = .exited := by
    intro w w' halt h' he hr
    rw [Worker.phase_congr (Worker.SameTasks.resume hr).phases]
    exact Worker.phase_of_forall_exited
      (he.one.resume (List.mem_singleton_self _) hr).1
  cases hm with
  | finished hw hr ha =>
    obtain ⟨i, rfl⟩ := h.reliesOn
    obtain ⟨-, rfl⟩ := Worker.resume_exited hr
    have he := h.attended.engaged _ hw
    exact h.await rfl hw (.resume hr)
      (Worker.Engaged.resume_at (A := []) he hr) (fun _ => hexited he hr) hn
      hdown rfl (fun hh => absurd rfl hh) ha hroster
  | @abort halt deadline w sv' call hw hr hdue ha =>
    obtain ⟨i, rfl⟩ := h.reliesOn
    obtain ⟨k, hk⟩ := Worker.exists_current?_of_resume hr
    have he := Worker.Engaged.abort_at (A := []) (h.attended.engaged w hw)
    refine h.await rfl hw (.beginAbort w) he (fun hret => ?_) hn hdown rfl
      (fun _ => ?_) ha hroster
    · rw [Worker.beginAbort_of_some hk] at hret
      cases hret
    · exact ⟨Span.lt_deadline rfl, _, rfl, .beginAbort hk⟩
  | gone hw hr ha =>
    obtain ⟨hlt, w₀, hw₀, hcut⟩ := h.reliesOn
    obtain rfl := Option.some.inj (hw₀.symm.trans hw)
    have he := h.attended.engaged _ hw
    refine h.await rfl hw (.resume hr)
      (Worker.Engaged.resume_at (A := []) he hr) (fun _ => hexited he hr) hn
      hdown rfl (fun hh => ?_) ha hroster
    exact ⟨hlt, _, rfl, hcut.resume hr hh⟩
  | leave hw hr hdue hc =>
    obtain ⟨hlt, -⟩ := h.reliesOn
    omega
  | @stopped i r hr =>
    exact {
      roster := hroster
      attended := h.attended
      reliesOn := trivial
      finished := fun _ d hd => by
        obtain ⟨d', hd', hres⟩ := Option.bind_eq_some_iff.1 hr
        rw [(Roster.set_shutdowns h.roster hd' d').1,
          List.mem_singleton] at hd
        rw [hd, hres]
        rfl
      down := fun _ => h.reliesOn.2 }

/-- The next stop begins. -/
lemma Bracket.stop (h : Bracket cs n site sv call)
    (hover : call.isOver = true)
    (hroster : OnRoster cs (n + 1) site (Takedown.begin site sv).service
      (Takedown.begin site sv).call) :
    Bracket cs (n + 1) site (Takedown.begin site sv).service
      (Takedown.begin site sv).call := by
  obtain ⟨r, rfl⟩ : ∃ r, call = .returned r := by
    cases call with
    | returned r => exact ⟨r, rfl⟩
    | startup | takedown | unwound => cases hover
  have hdown : 1 < n + 1 → sv.active = .empty := fun hlt => by
    refine h.down ?_
    rcases Nat.lt_or_ge 1 n with hn | hn
    · exact .inl hn
    · exact .inr ⟨by omega, rfl⟩
  rcases (Takedown.begin_cases site sv).2 with ⟨hw, hc⟩ | ⟨w, hw, ha⟩
  · refine h.attended.closes (fun w hw' => ?_)
      (Roster.shutdowns_eq_nil h.roster) (h.finished rfl) n.succ_pos hdown
      hc hroster
    rw [hw] at hw'
    cases hw'
  · have hsame := Worker.SameTasks.beginStop w
    refine h.await rfl hw hsame (h.attended.engaged w hw).beginStop
      (fun hret => ?_) n.succ_pos hdown rfl (fun hne => ?_) ha hroster
    · rw [Worker.phase_congr hsame.phases]
      rcases w.beginStop_eq.2 with ⟨-, hnil⟩ | ⟨i, hi⟩
      · exact Worker.phase_of_forall_exited (by simp [hnil])
      · rw [hi] at hret
        cases hret
    · rcases w.beginStop_eq.2 with ⟨hret, -⟩ | hi
      · exact absurd hret hne
      · exact hi

/-! ### All moves -/

/-- A return is entered. -/
lemma Bracket.noted (h : Bracket cs n site sv call) (i : Nat) :
    Bracket cs n (site.note (.returned i)) sv call where
  roster := h.roster.enters ((Site.Enters.refl _).note (.returned i))
    (List.forall_mem_singleton.2 ⟨rfl, rfl⟩)
  attended := h.attended.enters ((Site.Enters.refl _).note (.returned i))
    (List.forall_mem_singleton.2 rfl)
    (List.forall_mem_singleton.2 fun _ _ => Event.noConfusion)
  reliesOn := h.reliesOn
  finished := h.finished
  down := h.down

/-- The world outside does something. -/
lemma Bracket.outside (h : Bracket cs n site sv call) (world : σ) :
    Bracket cs n { site with world } sv call where
  roster := h.roster
  attended := { h.attended with }
  reliesOn := h.reliesOn
  finished := h.finished
  down := h.down

/-- Every move keeps the bracket. -/
theorem kept_bracket (p : Platform σ) (cs : List Handler) :
    Kept p (Bracket cs) where
  noted i _ h := h.noted i
  outside world h := h.outside world
  clock d hp hidle h := h.clock (tellsInTime_of_idle hidle d)
    (reliesOn_of_idle d hp.getElem?_eq hidle h.reliesOn)
  loop {n site sv call w site' w' i} hw hs h := {
    roster := (kept_roster p cs).loop hw hs h.roster
    attended := h.attended.stepLoop hw hs
    reliesOn := by
      obtain ⟨new, hg⟩ := Worker.gains_stepLoop hs
      rw [hg.now]
      exact reliesOn_setWorker h.reliesOn hw fun halt hmem hcut =>
        hcut.stepLoop (h.attended.engaged w hw) hmem hs
    finished := h.finished
    down := h.down }
  call {n site sv call w site' w' i} hw hs h := {
    roster := (kept_roster p cs).call hw hs h.roster
    attended := h.attended.stepCall h.roster hw hs
    reliesOn := by
      obtain ⟨new, hg⟩ := Worker.gains_stepCall hs
      rw [hg.now]
      exact reliesOn_setWorker h.reliesOn hw fun _ _ hcut =>
        hcut.stepCall hs
    finished := h.finished
    down := h.down }
  stopTask hd hs h :=
    h.stopTask ((kept_roster p cs).stopTask hd hs h.roster) hd hs
  wait hd hs h := h.wait ((kept_roster p cs).wait hd hs h.roster) hd hs
  startup he hm h :=
    h.startup ((kept_roster p cs).startup he hm h.roster) he hm
  takedown hm h := h.takedown ((kept_roster p cs).takedown hm h.roster) hm
  stop hover h := h.stop hover ((kept_roster p cs).stop hover h.roster)

/-- The bracket when the startup has begun. -/
lemma bracket_begin (hcall : FirstCall config call) :
    Bracket cs 0 { now, world }
      { config, hasInventory, candidates := cs, begun := true } call where
  roster := onRoster_begin hcall
  attended := {
    groups := fun d hd => by cases hd
    untold := fun _ => rfl
    engaged := fun w hw => by cases hw
    manned := fun w hw => by cases hw
    quiet := fun w hw => by cases hw
    calls := fun before hd t after heq => by
      have := congrArg List.length heq
      simp [Journal.events] at this }
  reliesOn := by
    cases hcall <;> trivial
  finished _ d hd := by cases hd
  down _ := rfl

/-- The bracket of a service that was started and has been stopped some
times. -/
lemma Life.bracket (h : Life p now world config hasInventory cs n s) :
    ∃ call, s.Present n call ∧ Bracket cs n s.site s.service call :=
  h.keeps (kept_bracket p cs) fun _ hcall => bracket_begin hcall

/-! ### What is shown -/

/-- When the first stop has returned, nobody is at work, and no handler
is still to stop. -/
lemma Bracket.stopped (h : Bracket cs n s.site s.service call)
    (hp : s.Present n call) (hr : s.hasReturned 1 = true) :
    0 < n ∧ s.service.active = .empty
      ∧ ∀ d ∈ s.service.shutdowns, d.result?.isSome = true := by
  rcases Nat.lt_trichotomy 1 n with hlt | rfl | hlt
  · refine ⟨by omega, h.down (.inl hlt), h.finished ?_⟩
    cases call with
    | returned | unwound => rfl
    | startup u =>
      obtain rfl : n = 0 := h.roster.1
      omega
    | takedown t =>
      cases t with
      | stoppingWorker | abortingWorker => rfl
      | stoppingHandlers =>
        obtain ⟨rfl, -⟩ := h.reliesOn
        omega
  · have hover := hp.isOver_iff.2 hr
    refine ⟨Nat.one_pos, h.down (.inr ⟨rfl, hover⟩), h.finished ?_⟩
    cases call with
    | returned r => rfl
    | startup | takedown | unwound => cases hover
  · obtain rfl : n = 0 := by omega
    obtain ⟨returned, hc, hlen, -⟩ := hp.callers
    have hnone : s.callers[1]? = none := by
      rw [List.getElem?_eq_none (by simp [hc, hlen])]
    rw [hasReturned, answer?, hnone] at hr
    cases hr

end ServiceSystem

end RemoteOps
