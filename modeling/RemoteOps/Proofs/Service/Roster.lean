/-
The handlers of a service, from its startup on.

A startup keeps the handlers that start, in the order of the candidates;
the worker serves all of them when their kinds were published, and none
when they were not.  Taking the service down tells all of them to stop,
unless the startup has done so.

* `IsKept`, `servingHandlers`: the handlers that are kept, and their
  table;
* `Rising`: how far a startup is with the handlers;
* `Risen`: what a startup that went through leaves;
* `ServiceSystem.kept_roster`: every move keeps the roster.
-/
import Mathlib.Data.List.Flatten
import RemoteOps.Proofs.HandlerTable
import RemoteOps.Proofs.Shutdown
import RemoteOps.Proofs.Service.Life
import RemoteOps.Proofs.Worker.Trace

namespace RemoteOps

/-- Whether a handler starts when it is told to. -/
def Handler.starts (h : Handler) : Bool := h.startPhase.ending = .success

/-- The handlers of a table, as components. -/
def HandlerTable.components (t : HandlerTable) : List Component :=
  t.handlers.map (·.toComponent)

/-- The table of the candidates that start. -/
def IsKept (cs : List Handler) (t : HandlerTable) : Prop :=
  ∃ all, HandlerTable.verify cs = .ok all ∧ t = all.retain Handler.starts

/-- The handlers that declare kinds and start, in the order of the
candidates. -/
def servingHandlers (cs : List Handler) : List Handler :=
  (cs.filter Handler.starts).filter fun h => !h.kinds.isEmpty

lemma IsKept.handlers {cs : List Handler} {t : HandlerTable}
    (h : IsKept cs t) : t.handlers = servingHandlers cs := by
  obtain ⟨all, hv, rfl⟩ := h
  rw [HandlerTable.handlers, HandlerTable.registrations_retain hv,
    HandlerTable.registrationsOf, List.map_map]
  exact List.map_id' _

lemma IsKept.components {cs : List Handler} {t : HandlerTable}
    (h : IsKept cs t) :
    t.components = (servingHandlers cs).map (·.toComponent) := by
  rw [HandlerTable.components, h.handlers]

section Kept

variable {cs : List Handler} {t : HandlerTable}

/-- The kinds that the handlers declare which start, in the order of the
candidates and without repetitions. -/
def servedKinds (cs : List Handler) : List String :=
  (cs.filter Handler.starts).flatMap (·.kinds.eraseDups)

lemma IsKept.kindNames (h : IsKept cs t) : t.kindNames = servedKinds cs := by
  obtain ⟨all, hv, rfl⟩ := h
  exact HandlerTable.kindNames_retain hv _

/-- No kind is served twice. -/
lemma IsKept.nodup (h : IsKept cs t) : (servedKinds cs).Nodup := by
  obtain ⟨all, hv, rfl⟩ := h
  obtain ⟨hreg, hnodup⟩ := HandlerTable.verify_eq_ok hv
  rw [HandlerTable.kindNames, hreg, HandlerTable.flatMap_registrationsOf]
    at hnodup
  exact hnodup.sublist (List.filter_sublist.flatMap _)

end Kept

lemma HandlerTable.components_eq_nil {t : HandlerTable}
    (h : t.isEmpty = true) : t.components = [] := by
  rw [components, handlers, List.isEmpty_iff.1 h]
  rfl

/-! ### The roster -/

/-- A service that has not taken up its worker and has published
nothing. -/
structure Bare (published : List (List String)) (sv : Service) : Prop where
  valid : sv.config.validate = .ok ()
  worker : sv.worker = none
  active : sv.active = .empty
  published : published = []

/-- A startup that has kept the handlers of a table and has some still to
start. -/
structure Starting (cs : List Handler) (started : List Component)
    (published : List (List String)) (sv : Service) (kept : HandlerTable)
    (rest : List Registration) : Prop where
  bare : Bare published sv
  shutdowns : sv.shutdowns = []
  started : started = kept.components
  kept : ∃ all done, HandlerTable.verify cs = .ok all
    ∧ all.registrations = done ++ rest
    ∧ kept = .ofRegistrations (done.filter fun r => r.handler.starts)

/-- How far a startup is with the handlers. -/
def Rising (cs : List Handler) (started : List Component)
    (published : List (List String)) (sv : Service) : Startup → Prop
  | .querying .. | .inspecting .. | .settling .. => Bare published sv
    ∧ sv.shutdowns = [] ∧ started = [] ∧ sv.candidates = cs
  | .starting kept r rest _ =>
    Starting cs started published sv kept (r :: rest)
  | .publishing t _ => Starting cs started published sv t []
  | .undoing i => Bare published sv ∧ i = 0
    ∧ ∃ t d, IsKept cs t ∧ started = t.components ∧ sv.shutdowns = [d]
      ∧ d.components = t.components

/-- A startup that has failed leaves nothing behind. -/
structure Fallen (started : List Component)
    (published : List (List String)) (sv : Service) : Prop where
  worker : sv.worker = none
  active : sv.active = .empty
  shutdowns : sv.shutdowns = []
  started : started = []
  published : published = []

/-- A startup that went through has kept the handlers of a table and has
taken up a worker.  Each handler is at work, or was told to stop. -/
structure Risen (cs : List Handler) (n : Nat) (started : List Component)
    (published : List (List String)) (sv : Service) (t : HandlerTable)
    (w : Worker) : Prop where
  valid : sv.config.validate = .ok ()
  kept : IsKept cs t
  worker : sv.worker = some w
  started : started = t.components
  table : w.table = t ∧ published = [t.kindNames]
    ∨ w.table = .empty ∧ published = []
  active : n = 0 → sv.active = w.table
  groups : sv.shutdowns = [] ∧ sv.active.components = t.components
    ∨ ∃ d, sv.shutdowns = [d] ∧ d.components = t.components
      ∧ sv.active = .empty

/-- A service whose startup has returned. -/
def Standing (cs : List Handler) (n : Nat) (started : List Component)
    (published : List (List String)) (sv : Service) : Prop :=
  Fallen started published sv
    ∨ ∃ t w, Risen cs n started published sv t w

/-- What is known of the handlers of a service, by its present call and
the number of stops. -/
def Roster (cs : List Handler) (n : Nat) (started : List Component)
    (published : List (List String)) (sv : Service) : ServiceCall → Prop
  | .startup u => n = 0 ∧ Rising cs started published sv u
  | .takedown _ => 0 < n ∧ Standing cs n started published sv
  | .returned r => (n = 0 → r = .ok () → sv.worker ≠ none)
    ∧ Standing cs n started published sv
  | .unwound => n = 0 ∧ ∃ kept r rest,
    Starting cs started published sv kept (r :: rest)

section Moves

variable {cs : List Handler} {n now : Nat} {started : List Component}
  {published : List (List String)} {sv sv' : Service} {t : HandlerTable}
  {rest : List Registration} {es : List Event} {call : ServiceCall}
  {w w' : Worker}

/-! ### Moves of a startup -/

lemma Starting.isKept (h : Starting cs started published sv t []) :
    IsKept cs t := by
  obtain ⟨all, done, hv, hreg, rfl⟩ := h.kept
  refine ⟨all, hv, ?_⟩
  rw [HandlerTable.retain_eq, hreg, List.append_nil]

/-- A validated configuration leaves handlers time to stop. -/
lemma begin?_ne_error {config : Config} (hv : config.validate = .ok ())
    (he : t.isEmpty = false) (e : ShutdownError) :
    Shutdown.begin? now (t.handlers.map (·.toComponent))
      config.handlersShutdownTimeout true ≠ .error e := by
  intro hd
  rcases Shutdown.begin?_eq_error.1 hd with ⟨hnil, -⟩ | ⟨-, hz, -⟩
  · rw [List.map_eq_nil_iff, HandlerTable.handlers,
      List.map_eq_nil_iff] at hnil
    simp [HandlerTable.isEmpty, hnil] at he
  · rw [(Config.validate_eq_ok_iff.1 hv).2.2.2] at hz
    cases hz

/-- Nobody serves what could not be published. -/
lemma Starting.undoes (h : Starting cs started published sv t [])
    (hu : Undoes now sv t sv' call) :
    Roster cs 0 started published sv' call := by
  have hrisen : t.isEmpty = true → Risen cs 0 started published
      (sv.launch .empty) t (.launched .empty sv.config.pollInterval) :=
    fun he => {
      valid := h.bare.valid
      kept := h.isKept
      worker := rfl
      started := h.started
      table := .inr ⟨rfl, h.bare.published⟩
      active := fun _ => rfl
      groups := .inl ⟨h.shutdowns, (t.components_eq_nil he).symm⟩ }
  cases hu with
  | nothing he => exact ⟨fun _ _ => Option.some_ne_none _,
      .inr ⟨t, _, hrisen he⟩⟩
  | @group d he hd =>
    refine ⟨rfl, ⟨h.bare.valid, h.bare.worker, h.bare.active,
      h.bare.published⟩, by rw [h.shutdowns]; rfl, t, d, h.isKept, h.started,
      by rw [h.shutdowns]; rfl, ?_⟩
    rw [Shutdown.components_begin hd]
    rfl
  | refused he hd => exact absurd hd (begin?_ne_error h.bare.valid he _)

lemma Starting.startsNext (h : Starting cs started published sv t rest)
    (hn : StartsNext now sv t rest es sv' call) :
    Roster cs 0 (started ++ es.filterMap Event.started?)
      (published ++ es.filterMap Event.published?) sv' call := by
  have hnil : ∀ e : Event, (∃ c, e = .start c) → e.started? = none
      ∧ e.published? = none := by
    rintro _ ⟨c, rfl⟩
    exact ⟨rfl, rfl⟩
  cases hn with
  | @start r rest due =>
    obtain ⟨hs, hp⟩ := hnil _ ⟨r.handler.toComponent, rfl⟩
    rw [List.filterMap_cons_none hs, List.filterMap_cons_none hp,
      List.filterMap_nil, List.filterMap_nil, List.append_nil,
      List.append_nil]
    exact ⟨rfl, h⟩
  | publish =>
    simp only [List.filterMap_nil, List.append_nil]
    exact ⟨rfl, h⟩
  | undo hu =>
    simp only [List.filterMap_nil, List.append_nil]
    exact h.undoes hu

lemma filterMap_of_isOfPasses (hes : ∀ e ∈ es, e.isOfPasses = true) :
    es.filterMap Event.started? = []
      ∧ es.filterMap Event.published? = [] := by
  constructor <;>
  · refine List.filterMap_eq_nil_iff.2 fun e he => ?_
    have hp := hes e he
    cases e <;> first | rfl | cases hp

/-- The next handler has started: it is kept. -/
lemma Starting.keep {r : Registration}
    (h : Starting cs started published sv t (r :: rest))
    (hr : r.handler.startPhase.ending = .success) :
    Starting cs (started ++ [r.handler.toComponent]) published sv
      (t.push r) rest := by
  obtain ⟨hb, hsd, hst, all, done, hv, hreg, rfl⟩ := h
  refine ⟨hb, hsd, ?_, all, done ++ [r], hv, ?_, ?_⟩
  · rw [hst]
    simp [HandlerTable.components, HandlerTable.handlers]
  · rw [hreg, List.append_assoc]
    rfl
  · simp [Handler.starts, hr]

/-- The next handler has not started: it is dropped. -/
lemma Starting.drop {r : Registration}
    (h : Starting cs started published sv t (r :: rest))
    (hr : r.handler.starts = false) :
    Starting cs started published sv t rest := by
  obtain ⟨hb, hsd, hst, all, done, hv, hreg, rfl⟩ := h
  refine ⟨hb, hsd, hst, all, done ++ [r], hv, ?_, ?_⟩
  · rw [hreg, List.append_assoc]
    rfl
  · simp [hr]

/-- The worker serves what was published. -/
lemma Starting.launch (h : Starting cs started published sv t []) :
    Risen cs 0 started (published ++ [t.kindNames]) (sv.launch t) t
      (.launched t sv.config.pollInterval) where
  valid := h.bare.valid
  kept := h.isKept
  worker := rfl
  started := h.started
  table := .inl ⟨rfl, by rw [h.bare.published, List.nil_append]⟩
  active _ := rfl
  groups := .inl ⟨h.shutdowns, rfl⟩

/-- A startup that goes on. -/
lemma Rising.move {u : Startup} (h : Rising cs started published sv u)
    (hm : StartupMove now sv u es sv' call) :
    Roster cs 0 (started ++ es.filterMap Event.started?)
      (published ++ es.filterMap Event.published?) sv' call := by
  have hpasses : u.isInPasses = true → Bare published sv
      ∧ sv.shutdowns = [] ∧ started = [] ∧ sv.candidates = cs := fun hu => by
    cases u with
    | querying | inspecting | settling => exact h
    | starting | publishing | undoing => cases hu
  have hfallen : u.isInPasses = true → Fallen started published sv :=
    fun hu => by
    obtain ⟨hb, hsd, hst, -⟩ := hpasses hu
    exact ⟨hb.worker, hb.active, hsd, hst, hb.published⟩
  cases hm with
  | @pass _ u' _ hu hu' hes =>
    obtain ⟨hs, hp⟩ := filterMap_of_isOfPasses hes
    rw [hs, hp, List.append_nil, List.append_nil]
    refine ⟨rfl, ?_⟩
    cases u' with
    | querying | inspecting | settling => exact hpasses hu
    | starting | publishing | undoing => cases hu'
  | passFailed hu hes =>
    obtain ⟨hs, hp⟩ := filterMap_of_isOfPasses hes
    rw [hs, hp, List.append_nil, List.append_nil]
    exact ⟨fun _ h => (by cases h), .inl (hfallen hu)⟩
  | duplicate hu hes hv =>
    obtain ⟨hs, hp⟩ := filterMap_of_isOfPasses hes
    rw [hs, hp, List.append_nil, List.append_nil]
    obtain ⟨hw, ha, hsd, hst, hpub⟩ := hfallen hu
    exact ⟨fun _ h => (by cases h), .inl ⟨hw, ha, hsd, hst, hpub⟩⟩
  | @verified _ es es' all sv' call hu hes hv hn =>
    obtain ⟨hs, hp⟩ := filterMap_of_isOfPasses hes
    obtain ⟨⟨hvalid, hw, ha, hpub⟩, hsd, hst, hcs⟩ := hpasses hu
    have hstart : Starting cs started published { sv with candidates := [] }
        .empty all.registrations :=
      ⟨⟨hvalid, hw, ha, hpub⟩, hsd, hst, all, [], hcs ▸ hv, rfl, rfl⟩
    rw [List.filterMap_append, List.filterMap_append, hs, hp,
      List.nil_append, List.nil_append]
    exact hstart.startsNext hn
  | @started kept r rest due es sv' call hr hn =>
    have hn' := (Starting.keep h hr).startsNext hn
    rw [List.append_assoc] at hn'
    exact hn'
  | @dropped kept r rest due es sv' call message hr hn =>
    have hstarts : r.handler.starts = false := by simp [Handler.starts, hr]
    exact (Starting.drop h hstarts).startsNext hn
  | unwound =>
    rw [List.filterMap_nil, List.filterMap_nil, List.append_nil,
      List.append_nil]
    exact ⟨rfl, _, _, _, h⟩
  | @published t due =>
    have hpub : [Event.publish t.kindNames (.ok ())].filterMap
        Event.published? = [t.kindNames] := rfl
    have hst : [Event.publish t.kindNames (.ok ())].filterMap
        Event.started? = [] := rfl
    rw [hpub, hst, List.append_nil]
    exact ⟨fun _ _ => Option.some_ne_none _,
      .inr ⟨t, _, Starting.launch h⟩⟩
  | @unpublished t due e sv' call hu =>
    have hpub : [Event.publish t.kindNames (.error e)].filterMap
        Event.published? = [] := rfl
    have hst : [Event.publish t.kindNames (.error e)].filterMap
        Event.started? = [] := rfl
    rw [hpub, hst, List.append_nil, List.append_nil]
    exact Starting.undoes h hu
  | undone =>
    obtain ⟨hb, rfl, t, d, hk, hst, hsd, hd⟩ := h
    rw [List.filterMap_nil, List.filterMap_nil, List.append_nil,
      List.append_nil]
    exact ⟨fun _ _ => Option.some_ne_none _, .inr ⟨t, _, {
      valid := hb.valid
      kept := hk
      worker := rfl
      started := hst
      table := .inr ⟨rfl, hb.published⟩
      active := fun _ => rfl
      groups := .inr ⟨d, hsd, hd, rfl⟩ }⟩⟩

/-- A startup that goes on does not leave handlers behind that are still
to stop. -/
lemma Rising.forall_finished {u : Startup}
    (h : Rising cs started published sv u)
    (hm : StartupMove now sv u es sv' call) :
    ∀ d ∈ sv.shutdowns, d.result?.isSome = true := by
  intro d hd
  cases u with
  | querying | inspecting | settling =>
    rw [h.2.1] at hd
    cases hd
  | starting | publishing =>
    rw [h.shutdowns] at hd
    cases hd
  | undoing i =>
    obtain ⟨-, rfl, t, d₀, -, -, hsd, -⟩ := h
    cases hm with
    | pass hu | passFailed hu | duplicate hu | verified hu => cases hu
    | undone hi =>
      rw [hsd, List.mem_singleton] at hd
      rw [Service.shutdownResult?, hsd] at hi
      rw [hd]
      exact hi

/-! ### Moves of taking the service down -/

/-- The worker is replaced by one with the same table. -/
lemma Risen.setWorker (h : Risen cs n started published sv t w)
    (hw : w'.table = w.table) :
    Risen cs n started published { sv with worker := some w' } t w' where
  valid := h.valid
  kept := h.kept
  worker := rfl
  started := h.started
  table := by
    rw [hw]
    exact h.table
  active hn := (h.active hn).trans hw.symm
  groups := h.groups

/-- Only a startup that went through has taken up a worker. -/
lemma Standing.risen (h : Standing cs n started published sv)
    (hw : sv.worker = some w) :
    ∃ t, Risen cs n started published sv t w := by
  rcases h with hf | ⟨t, w₀, hr⟩
  · rw [hf.worker] at hw
    cases hw
  · obtain rfl := Option.some.inj (hr.worker.symm.trans hw)
    exact ⟨t, hr⟩

lemma Standing.setWorker (h : Standing cs n started published sv)
    (hw : sv.worker = some w) (htab : w'.table = w.table) :
    Standing cs n started published { sv with worker := some w' } := by
  obtain ⟨t, hr⟩ := h.risen hw
  exact .inr ⟨t, w', hr.setWorker htab⟩

/-- The groups are replaced by others with the same components. -/
lemma Risen.setShutdown (h : Risen cs n started published sv t w)
    {group : Nat} {d d' : Shutdown} (hd : sv.shutdowns[group]? = some d)
    (hc : d'.components = d.components) :
    Risen cs n started published
      { sv with shutdowns := sv.shutdowns.set group d' } t w := by
  refine { h with groups := ?_ }
  rcases h.groups with ⟨hnil, -⟩ | ⟨d₀, hsd, hd₀, ha⟩
  · rw [hnil] at hd
    cases hd
  · obtain ⟨rfl, hset⟩ := set_of_singleton hsd hd d'
    exact .inr ⟨d', hset, hc.trans hd₀, ha⟩

/-- After the startup the number of stops does not matter. -/
lemma Standing.of_pos (h : Standing cs n started published sv) {m : Nat}
    (hm : 0 < m) : Standing cs m started published sv :=
  h.imp id fun ⟨t, w, hr⟩ => ⟨t, w, { hr with
    active := fun h0 => absurd h0 (Nat.ne_of_gt hm) }⟩

/-- The handlers that are at work are told to stop. -/
lemma Risen.closes (h : Risen cs n started published sv t w) {m : Nat}
    (hm : 0 < m) (hc : Closes now sv sv' call) :
    Risen cs m started published sv' t w ∧ sv'.active = .empty := by
  have hempty : ∀ sv' : Service, sv.active.isEmpty = true →
      sv' = { sv with active := .empty } →
      Risen cs m started published sv' t w := by
    rintro sv' he rfl
    refine { h with
      active := fun h0 => absurd h0 (Nat.ne_of_gt hm)
      groups := ?_ }
    rcases h.groups with ⟨hsd, hcomp⟩ | ⟨d, hsd, hd, -⟩
    · refine .inl ⟨hsd, ?_⟩
      rw [← hcomp, HandlerTable.components_eq_nil he]
      rfl
    · exact .inr ⟨d, hsd, hd, rfl⟩
  -- handlers at work have not been told to stop
  have hnil : sv.active.isEmpty = false → sv.shutdowns = []
      ∧ sv.active.components = t.components := fun he => by
    rcases h.groups with hg | ⟨d, -, -, ha⟩
    · exact hg
    · rw [ha] at he
      cases he
  cases hc with
  | nothing he => exact ⟨hempty _ he rfl, rfl⟩
  | @group d he hd =>
    obtain ⟨hsd, hcomp⟩ := hnil he
    refine ⟨{ h with
      active := fun h0 => absurd h0 (Nat.ne_of_gt hm)
      groups := .inr ⟨d, by rw [hsd]; rfl, ?_, rfl⟩ }, rfl⟩
    rw [Shutdown.components_begin hd, ← hcomp]
    rfl
  | refused he hd => exact absurd hd (begin?_ne_error h.valid he _)

/-- How a service goes on with the handlers or has returned. -/
lemma Closes.isOfStartup_eq (hc : Closes now sv sv' call) :
    call.isOfStartup = false := by
  cases hc <;> rfl

lemma Roster.of_standing (h : Standing cs n started published sv)
    (hn : 0 < n) (hcall : call.isOfStartup = false) :
    Roster cs n started published sv call := by
  cases call with
  | startup | unwound => cases hcall
  | takedown t => exact ⟨hn, h⟩
  | returned r => exact ⟨fun h0 => absurd h0 (Nat.ne_of_gt hn), h⟩

lemma Standing.closes (h : Standing cs n started published sv) {m : Nat}
    (hm : 0 < m) (hc : Closes now sv sv' call) :
    Roster cs m started published sv' call := by
  refine .of_standing ?_ hm hc.isOfStartup_eq
  rcases h with hf | ⟨t, w, hr⟩
  · refine .inl ?_
    cases hc with
    | nothing => exact { hf with active := rfl }
    | group he | refused he =>
      rw [hf.active] at he
      cases he
  · exact .inr ⟨t, w, (hr.closes hm hc).1⟩

lemma Standing.awaits (h : Standing cs n started published sv) {m : Nat}
    (hm : 0 < m) {f : Halt → Takedown} {halt : Halt}
    (hw : sv.worker = some w) (htab : w'.table = w.table)
    (ha : Awaits now sv w' f halt sv' call) :
    Roster cs m started published sv' call := by
  have h' := h.setWorker hw htab
  cases ha with
  | goesOn hc => exact h'.closes hm hc
  | waits _ => exact .of_standing (h'.of_pos hm) hm rfl

/-- Taking the service down. -/
lemma Standing.takedown (h : Standing cs n started published sv)
    (hn : 0 < n) {down : Takedown} (hm : TakedownMove now sv down sv' call) :
    Roster cs n started published sv' call := by
  cases hm with
  | finished hw hr ha | gone hw hr ha =>
    exact h.awaits hn hw (Worker.SameTasks.resume hr).table ha
  | @abort _ _ w _ _ hw hr hdue ha =>
    exact h.awaits hn hw (Worker.SameTasks.beginAbort w).table ha
  | leave hw hr hdue hc => exact h.closes hn hc
  | stopped hr => exact .of_standing h hn rfl

/-- The next stop begins. -/
lemma Roster.stop {σ : Type} (site : Site σ) (hover : call.isOver = true)
    (h : Roster cs n started published sv call) :
    Roster cs (n + 1) started published (Takedown.begin site sv).service
      (Takedown.begin site sv).call := by
  have hstand : Standing cs n started published sv := by
    cases call with
    | startup u | takedown t | unwound => cases hover
    | returned r => exact h.2
  rcases (Takedown.begin_cases site sv).2 with ⟨-, hc⟩ | ⟨w, hw, ha⟩
  · exact hstand.closes n.succ_pos hc
  · exact hstand.awaits n.succ_pos hw (Worker.SameTasks.beginStop w).table ha

/-- A startup that goes on has taken up nothing. -/
lemma Rising.bare {u : Startup} (h : Rising cs started published sv u) :
    Bare published sv := by
  cases u with
  | querying | inspecting | settling | undoing => exact h.1
  | starting | publishing => exact Starting.bare h

lemma Rising.worker {u : Startup} (h : Rising cs started published sv u) :
    sv.worker = none :=
  h.bare.worker

/-- The worker is replaced by one with the same table. -/
lemma Roster.setWorker (h : Roster cs n started published sv call)
    (hw : sv.worker = some w) (htab : w'.table = w.table) :
    Roster cs n started published { sv with worker := some w' } call := by
  cases call with
  | startup u =>
    rw [h.2.worker] at hw
    cases hw
  | unwound =>
    obtain ⟨-, _, _, _, hs⟩ := h
    rw [hs.bare.worker] at hw
    cases hw
  | takedown t => exact ⟨h.1, h.2.setWorker hw htab⟩
  | returned r =>
    exact ⟨fun _ _ => Option.some_ne_none _, h.2.setWorker hw htab⟩

/-- A group is replaced by one of the same components. -/
lemma Roster.setShutdown (h : Roster cs n started published sv call)
    {group : Nat} {d d' : Shutdown} (hd : sv.shutdowns[group]? = some d)
    (hc : d'.components = d.components) : Roster cs n started published
      { sv with shutdowns := sv.shutdowns.set group d' } call := by
  have hmem := List.mem_of_getElem? hd
  have hstand : Standing cs n started published sv →
      Standing cs n started published
        { sv with shutdowns := sv.shutdowns.set group d' } := by
    rintro (hf | ⟨t, w, hr⟩)
    · rw [hf.shutdowns] at hmem
      cases hmem
    · exact .inr ⟨t, w, hr.setShutdown hd hc⟩
  cases call with
  | takedown t => exact ⟨h.1, hstand h.2⟩
  | returned r => exact ⟨h.1, hstand h.2⟩
  | unwound =>
    obtain ⟨-, _, _, _, hs⟩ := h
    rw [hs.shutdowns] at hmem
    cases hmem
  | startup u =>
    obtain ⟨rfl, h⟩ := h
    cases u with
    | querying | inspecting | settling =>
      rw [h.2.1] at hmem
      cases hmem
    | starting | publishing =>
      rw [h.shutdowns] at hmem
      cases hmem
    | undoing i =>
      obtain ⟨hb, hi, t, d₀, hk, hst, hsd, hcomp⟩ := h
      obtain ⟨rfl, hset⟩ := set_of_singleton hsd hd d'
      exact ⟨rfl, ⟨hb.valid, hb.worker, hb.active, hb.published⟩, hi, t, d',
        hk, hst, hset, hc.trans hcomp⟩

/-- The startup is on its way, or was when it came to an abnormal end, or
it has returned. -/
lemma Roster.rising_or_standing
    (h : Roster cs n started published sv call) :
    (n = 0 ∧ ∃ u, Rising cs started published sv u)
      ∨ Standing cs n started published sv := by
  cases call with
  | startup u => exact .inl ⟨h.1, u, h.2⟩
  | unwound =>
    obtain ⟨hn, kept, r, rest, hs⟩ := h
    exact .inl ⟨hn, .starting kept r rest 0, hs⟩
  | takedown t => exact .inr h.2
  | returned r => exact .inr h.2

lemma Roster.standing (h : Roster cs n started published sv call)
    (hn : 0 < n) : Standing cs n started published sv :=
  h.rising_or_standing.resolve_left fun ⟨h0, _⟩ => Nat.ne_of_gt hn h0

lemma Roster.bare (h : Roster cs n started published sv call)
    (hcall : call.isOfStartup = true) : Bare published sv := by
  cases call with
  | startup u => exact h.2.bare
  | unwound =>
    obtain ⟨-, kept, r, rest, hs⟩ := h
    exact hs.bare
  | takedown | returned => cases hcall

lemma Roster.ne_takedown (h : Roster cs 0 started published sv call)
    (t : Takedown) : call ≠ .takedown t := by
  rintro rfl
  exact absurd h.1 (Nat.lt_irrefl 0)

lemma Roster.risen (h : Roster cs n started published sv call)
    (hw : sv.worker = some w) :
    ∃ t, Risen cs n started published sv t w := by
  rcases h.rising_or_standing with ⟨-, u, hu⟩ | hs
  · rw [hu.worker] at hw
    cases hw
  · exact hs.risen hw

/-- At most one group of handlers is ever told to stop: those that have
started. -/
lemma Roster.shutdowns (h : Roster cs n started published sv call) :
    sv.shutdowns = []
      ∨ ∃ d, sv.shutdowns = [d] ∧ d.components = started
        ∧ sv.active = .empty := by
  rcases h.rising_or_standing with ⟨-, u, hu⟩ | hf | ⟨t, w, hr⟩
  · cases u with
    | querying | inspecting | settling => exact .inl hu.2.1
    | starting | publishing => exact .inl hu.shutdowns
    | undoing i =>
      obtain ⟨hb, -, t, d, -, hst, hsd, hd⟩ := hu
      exact .inr ⟨d, hsd, hd.trans hst.symm, hb.active⟩
  · exact .inl hf.shutdowns
  · rcases hr.groups with ⟨hnil, -⟩ | ⟨d, hsd, hd, ha⟩
    · exact .inl hnil
    · exact .inr ⟨d, hsd, hd.trans hr.started.symm, ha⟩

/-- A group that is replaced is the only one. -/
lemma Roster.set_shutdowns (h : Roster cs n started published sv call)
    {group : Nat} {d : Shutdown} (hd : sv.shutdowns[group]? = some d)
    (d' : Shutdown) :
    sv.shutdowns = [d] ∧ sv.shutdowns.set group d' = [d'] := by
  rcases h.shutdowns with hnil | ⟨d₀, hsd, -⟩
  · rw [hnil] at hd
    cases hd
  · obtain ⟨rfl, hset⟩ := set_of_singleton hsd hd d'
    exact ⟨hsd, hset⟩

/-- Handlers at work have not been told to stop. -/
lemma Roster.shutdowns_eq_nil (h : Roster cs n started published sv call)
    (ha : sv.active.isEmpty = false) : sv.shutdowns = [] := by
  rcases h.shutdowns with hnil | ⟨d, -, -, hactive⟩
  · exact hnil
  · rw [hactive] at ha
    cases ha

/-- A startup tells one group of handlers to stop, if any. -/
lemma Roster.shutdowns_of_effect
    (h : Roster cs n started published sv' call)
    (he : StartupEffect now sv sv' call) :
    sv'.shutdowns = sv.shutdowns
      ∨ sv.shutdowns = [] ∧ ∃ d cs timeout terminate u,
        Shutdown.begin? now cs timeout terminate = .ok d
          ∧ sv'.shutdowns = [d] ∧ call = .startup u := by
  rcases he.shutdowns with hsame | ⟨d, cs', timeout, terminate, u, hd, hsd, hu⟩
  · exact .inl hsame
  · have hnil : sv.shutdowns = [] := by
      have hlen := congrArg List.length hsd
      rcases h.shutdowns with hone | ⟨d', hone, -⟩ <;>
      · rw [hone] at hlen
        exact List.length_eq_zero_iff.1 (by simpa using hlen.symm)
    rw [hnil] at hsd
    exact .inr ⟨hnil, d, cs', timeout, terminate, u, hd, hsd, hu⟩

/-! ### Handlers that have started -/

lemma Starting.sublist (h : Starting cs started published sv t rest) :
    ∃ t', IsKept cs t' ∧ started.Sublist t'.components := by
  obtain ⟨all, done, hv, hreg, rfl⟩ := h.kept
  refine ⟨_, ⟨all, hv, rfl⟩, ?_⟩
  rw [h.started, HandlerTable.components, HandlerTable.components,
    HandlerTable.handlers, HandlerTable.handlers, HandlerTable.retain_eq, hreg,
    HandlerTable.registrations_ofRegistrations,
    HandlerTable.registrations_ofRegistrations, List.filter_append]
  exact ((List.sublist_append_left _ _).map _).map _

/-- Only handlers that are kept have started, in their order. -/
lemma Roster.sublist (h : Roster cs n started published sv call) :
    started = [] ∨ ∃ t, IsKept cs t ∧ started.Sublist t.components := by
  rcases h.rising_or_standing with ⟨-, u, hu⟩ | hf | ⟨t, w, hr⟩
  · cases u with
    | querying | inspecting | settling => exact .inl hu.2.2.1
    | starting | publishing => exact .inr hu.sublist
    | undoing i =>
      obtain ⟨-, -, t, -, hk, hst, -⟩ := hu
      exact .inr ⟨t, hk, hst ▸ .refl _⟩
  · exact .inl hf.started
  · exact .inr ⟨t, hr.kept, hr.started ▸ .refl _⟩

/-- After the startup every handler that has started is at work or was told
to stop. -/
lemma Roster.started_eq_nil (h : Roster cs n started published sv call)
    (hn : 0 < n) (hnil : sv.shutdowns = []) (ha : sv.active = .empty) :
    started = [] := by
  rcases h.standing hn with hf | ⟨t, w, hr⟩
  · exact hf.started
  · rcases hr.groups with ⟨-, hcomp⟩ | ⟨d, hsd, -⟩
    · rw [hr.started, ← hcomp, ha]
      rfl
    · rw [hsd] at hnil
      cases hnil

end Moves

/-! ### All moves -/

namespace ServiceSystem

variable {σ : Type} {p : Platform σ} {site site' : Site σ} {n : Nat}
  {sv : Service} {call : ServiceCall} {es : List Event}

/-- The roster of a service with the journal of its site. -/
def OnRoster (cs : List Handler) (n : Nat) (site : Site σ) (sv : Service)
    (call : ServiceCall) : Prop :=
  Roster cs n site.journal.started site.journal.published sv call

/-- Events that tell nothing of handlers that start. -/
lemma OnRoster.enters {cs : List Handler} (h : OnRoster cs n site sv call)
    (he : site.Enters es site')
    (hes : ∀ e ∈ es, e.started? = none ∧ e.published? = none) :
    OnRoster cs n site' sv call := by
  rw [OnRoster, he.started, he.published,
    List.filterMap_eq_nil_iff.2 fun e hmem => (hes e hmem).1,
    List.filterMap_eq_nil_iff.2 fun e hmem => (hes e hmem).2,
    List.append_nil, List.append_nil]
  exact h

lemma OnRoster.gains {cs : List Handler} (h : OnRoster cs n site sv call)
    {new : List Event} (hg : site.Gains new site') :
    OnRoster cs n site' sv call := by
  obtain ⟨es, he, -, hes⟩ := hg.enters
  refine h.enters he fun e hmem => ?_
  have hw := hes e hmem
  cases e <;> first | exact ⟨rfl, rfl⟩ | cases hw

/-- Every move keeps the roster. -/
theorem kept_roster (p : Platform σ) (cs : List Handler) :
    Kept p (OnRoster cs) where
  noted i _ h := h.enters ((Site.Enters.refl _).note (.returned i))
    (List.forall_mem_singleton.2 ⟨rfl, rfl⟩)
  outside _ h := h
  clock _ _ _ h := h
  loop hw hs h := by
    obtain ⟨new, hg⟩ := Worker.gains_stepLoop hs
    exact OnRoster.gains
      (Roster.setWorker h hw (Worker.table_stepLoop hs)) hg
  call hw hs h := by
    obtain ⟨new, hg⟩ := Worker.gains_stepCall hs
    exact OnRoster.gains
      (Roster.setWorker h hw (Worker.table_stepCall hs)) hg
  stopTask hd hs h := by
    have hc := Shutdown.components_stepTask hs
    obtain ⟨t, es, phase, -, hm, he, -⟩ := Shutdown.stepTask_cases hs
    refine OnRoster.enters (Roster.setShutdown h hd hc) he fun e hmem => ?_
    cases hm with
    | begin | finish =>
      rw [List.mem_singleton.1 hmem]
      exact ⟨rfl, rfl⟩
    | cut | fail => cases hmem
  wait hd hs h := Roster.setShutdown h hd (Shutdown.components_stepWait hs)
  startup he hm h := by
    obtain ⟨rfl, h⟩ := h
    rw [OnRoster, he.started, he.published]
    exact h.move hm
  takedown hm h := h.2.takedown h.1 hm
  stop hover h := h.stop _ hover

/-- The roster when the startup has begun. -/
lemma onRoster_begin {now : Nat} {world : σ} {config : Config}
    {hasInventory : Bool} {cs : List Handler}
    (hcall : FirstCall config call) :
    OnRoster cs 0 { now, world }
      { config, hasInventory, candidates := cs, begun := true } call := by
  cases hcall with
  | passes hv => exact ⟨rfl, ⟨hv, rfl, rfl, rfl⟩, rfl, rfl, rfl⟩
  | refused => exact ⟨fun _ h => (by cases h), .inl ⟨rfl, rfl, rfl, rfl, rfl⟩⟩

end ServiceSystem

end RemoteOps
