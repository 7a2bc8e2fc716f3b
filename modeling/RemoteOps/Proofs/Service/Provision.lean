/-
What a service needs to have its handlers stopped, and that it has it.

Handlers are at work, or about to be, only in a service whose
configuration was found valid, so whenever some are to be told to stop
there are some and they have time.  This is so in whichever order the
service is started and stopped, and however long anything takes.

* `ServiceSystem.Driven`: the runs in which a service is started and
  stopped in any way, with the calls that stop it;
* `GroupsMove`, `GroupsMove.forall_mem`: what a step does to the groups of
  handlers that were told to stop;
* `Ordered`: what a service and its calls rely on;
* `ServiceSystem.Driven.ordered`: every run keeps it;
* `ServiceSystem.Provided`, `ServiceSystem.Driven.provided`: nobody is told
  to stop for nothing or in no time.
-/
import RemoteOps.Proofs.Service.Roster
import RemoteOps.Proofs.Worker.Engaged

namespace RemoteOps

variable {σ : Type} {p : Platform σ} {site site' : Site σ} {now i : Nat}
  {sv sv' : Service} {callers : List ServiceCall} {c c' : ServiceCall}

/-! ### Groups of handlers -/

/-- What a step does to the groups of handlers that were told to stop. -/
inductive GroupsMove (site : Site σ) :
    List Shutdown → List Shutdown → Prop where
  | same {l : List Shutdown} : GroupsMove site l l
  | told {l : List Shutdown} {cs : List Component} {timeout : Span}
    {d : Shutdown}
    (hd : Shutdown.begin? site.now cs timeout true = .ok d) :
    GroupsMove site l (l ++ [d])
  | task {l : List Shutdown} {group i : Nat} {d d' : Shutdown}
    {site' : Site σ} (hd : l[group]? = some d)
    (hs : d.stepTask site i = some (site', d')) :
    GroupsMove site l (l.set group d')
  | wait {l : List Shutdown} {group : Nat} {d d' : Shutdown}
    (hd : l[group]? = some d) (hs : d.stepWait site.now = some d') :
    GroupsMove site l (l.set group d')

namespace GroupsMove

variable {l l' : List Shutdown}

lemma refl (site : Site σ) (l : List Shutdown) : GroupsMove site l l :=
  .same

lemma length_le (h : GroupsMove site l l') : l.length ≤ l'.length := by
  cases h with
  | same => exact Nat.le_refl _
  | told => exact List.length_append ▸ Nat.le_add_right _ _
  | task | wait => exact List.length_set.ge

/-- What holds of every new group, and is kept by its tasks and by the one
who waits for them, holds of all groups. -/
lemma forall_mem {Q : Shutdown → Prop} (h : GroupsMove site l l')
    (hbegin : ∀ cs timeout d,
      Shutdown.begin? site.now cs timeout true = .ok d → Q d)
    (htask : ∀ d i site' d', Q d →
      d.stepTask site i = some (site', d') → Q d')
    (hwait : ∀ d d', Q d → d.stepWait site.now = some d' → Q d')
    (hl : ∀ d ∈ l, Q d) : ∀ d ∈ l', Q d := by
  cases h with
  | same => exact hl
  | told hd =>
    exact List.forall_mem_append.2
      ⟨hl, List.forall_mem_singleton.2 (hbegin _ _ _ hd)⟩
  | task hd hs =>
    have hd' := htask _ _ _ _ (hl _ (List.mem_of_getElem? hd)) hs
    exact forall_mem_set hl hd' _
  | wait hd hs =>
    have hd' := hwait _ _ (hl _ (List.mem_of_getElem? hd)) hs
    exact forall_mem_set hl hd' _

end GroupsMove

/-- A wait for handlers can fail in one way only: some are still at work
when the time is over. -/
def Shutdown.FailsLate (d : Shutdown) : Prop :=
  ∀ e, d.result? = some (.error e) → ∃ n timeout, e = .notTerminated n timeout

namespace Shutdown

variable {d d' : Shutdown}

lemma failsLate_begin {cs : List Component} {timeout : Span}
    (h : begin? now cs timeout true = .ok d) : d.FailsLate := by
  obtain ⟨-, rfl⟩ := begin?_eq_ok h
  intro e he
  cases he

lemma FailsLate.stepTask (h : d.FailsLate)
    (hs : d.stepTask site i = some (site', d')) : d'.FailsLate := by
  intro e he
  rw [result?_stepTask hs] at he
  exact h e he

lemma failsLate_stepWait (hs : d.stepWait now = some d') :
    d'.FailsLate := by
  intro e he
  rw [stepWait] at hs
  split at hs
  · split at hs
    · cases hs
      cases he
    · split at hs
      · split at hs
        · cases hs
          cases he
        · cases hs
          cases he
          exact ⟨_, _, rfl⟩
      · cases hs
  · split at hs
    · cases hs
      cases he
    · split at hs
      · cases hs
        cases he
        exact ⟨_, _, rfl⟩
      · cases hs
  · cases hs

end Shutdown

lemma GroupsMove.failsLate {l l' : List Shutdown} (h : GroupsMove site l l')
    (hl : ∀ d ∈ l, d.FailsLate) : ∀ d ∈ l', d.FailsLate :=
  h.forall_mem (fun _ _ _ hd => Shutdown.failsLate_begin hd)
    (fun _ _ _ _ hd hs => hd.stepTask hs)
    (fun _ _ _ hs => Shutdown.failsLate_stepWait hs) hl

/-! ### What the calls of a service rely on -/

/-- Whether a call is a startup that goes on. -/
def ServiceCall.isStartup : ServiceCall → Bool
  | .startup _ => true
  | .takedown _ | .returned _ | .unwound => false

/-- What a call relies on, or has come to. -/
def ServiceCall.RestsOn (sv : Service) : ServiceCall → Prop
  | .startup _ => sv.config.validate = .ok () ∧ sv.worker = none
  | .takedown t => (∃ w, sv.worker = some w ∧ w.running = false)
    ∧ ∀ k, t = .stoppingHandlers k → k < sv.shutdowns.length
  | .returned r => ∀ e, r = .error (.shutdown e) →
    ∃ n timeout, e = .notTerminated n timeout
  | .unwound => True

/-- What a service and its calls rely on. -/
structure Ordered (sv : Service) (callers : List ServiceCall) : Prop where
  calls : ∀ c ∈ callers, c.RestsOn sv
  /-- At most one startup goes on. -/
  sole : callers.countP ServiceCall.isStartup ≤ 1
  /-- Nothing was taken up before the service was started. -/
  fresh : sv.begun = false → sv.worker = none
    ∧ callers.countP ServiceCall.isStartup = 0
  /-- Handlers are at work only if they have time to stop. -/
  valid : sv.active.isEmpty = false → sv.config.validate = .ok ()
  /-- Without a worker no handler is at work. -/
  idle : sv.worker = none → sv.active.isEmpty = true
  groups : ∀ d ∈ sv.shutdowns, d.FailsLate

/-- A step of anything but a startup: it takes up no worker and no
handlers, and a worker that is not to go on stays so. -/
structure Service.Abides (sv sv' : Service) : Prop where
  config : sv'.config = sv.config
  begun : sv'.begun = false → sv.begun = false
  active : sv'.active = sv.active ∨ sv'.active = .empty
  unmanned : sv.worker = none → sv'.worker = none
  manned : ∀ w, sv.worker = some w → ∃ w', sv'.worker = some w'
    ∧ (w.running = false → w'.running = false)
  shutdowns : sv.shutdowns.length ≤ sv'.shutdowns.length

lemma Service.Abides.trans {sv'' : Service} (h : sv.Abides sv')
    (h' : sv'.Abides sv'') : sv.Abides sv'' where
  config := h'.config.trans h.config
  begun := h.begun ∘ h'.begun
  active := by
    rcases h'.active with ha | ha
    · exact ha ▸ h.active
    · exact .inr ha
  unmanned hw := h'.unmanned (h.unmanned hw)
  manned w hw := by
    obtain ⟨w', hw', hrun⟩ := h.manned w hw
    obtain ⟨w'', hw'', hrun'⟩ := h'.manned w' hw'
    exact ⟨w'', hw'', hrun' ∘ hrun⟩
  shutdowns := h.shutdowns.trans h'.shutdowns

lemma ServiceCall.RestsOn.abide (h : c.RestsOn sv) (ha : sv.Abides sv') :
    c.RestsOn sv' := by
  cases c with
  | startup u => exact ⟨ha.config ▸ h.1, ha.unmanned h.2⟩
  | takedown t =>
    obtain ⟨⟨w, hw, hrun⟩, hk⟩ := h
    obtain ⟨w', hw', hrun'⟩ := ha.manned w hw
    exact ⟨⟨w', hw', hrun' hrun⟩,
      fun k ht => (hk k ht).trans_le ha.shutdowns⟩
  | returned | unwound => exact h

namespace Ordered

/-- Something but a startup takes a step. -/
lemma abide (h : Ordered sv callers) (ha : sv.Abides sv')
    (hg : GroupsMove site sv.shutdowns sv'.shutdowns) :
    Ordered sv' callers where
  calls c hc := (h.calls c hc).abide ha
  sole := h.sole
  fresh hb := by
    obtain ⟨hw, hno⟩ := h.fresh (ha.begun hb)
    exact ⟨ha.unmanned hw, hno⟩
  valid he := by
    rw [ha.config]
    rcases ha.active with hact | hact
    · exact h.valid (hact ▸ he)
    · rw [hact] at he
      cases he
  idle hw := by
    rcases ha.active with hact | hact
    · rw [hact]
      refine h.idle ?_
      cases hw₀ : sv.worker with
      | none => rfl
      | some w =>
        obtain ⟨w', hw', -⟩ := ha.manned w hw₀
        rw [hw] at hw'
        cases hw'
    · rw [hact]
      rfl
  groups := hg.failsLate h.groups

/-- A call is made that is no startup. -/
lemma add (h : Ordered sv callers) (hc : c.isStartup = false)
    (hr : c.RestsOn sv) : Ordered sv (callers ++ [c]) := by
  have hcount : (callers ++ [c]).countP ServiceCall.isStartup
      = callers.countP ServiceCall.isStartup := by
    rw [List.countP_append, List.countP_singleton, hc]
    rfl
  exact { h with
    calls := List.forall_mem_append.2
      ⟨h.calls, List.forall_mem_singleton.2 hr⟩
    sole := hcount ▸ h.sole
    fresh := fun hb => hcount ▸ h.fresh hb }

/-- A call goes on, as a startup only if it was one. -/
lemma set (h : Ordered sv callers) (hc : callers[i]? = some c)
    (hle : c'.isStartup = true → c.isStartup = true) (hr : c'.RestsOn sv) :
    Ordered sv (callers.set i c') := by
  have hcount : (callers.set i c').countP ServiceCall.isStartup
      ≤ callers.countP ServiceCall.isStartup := by
    have hadd := countP_set_add c' ServiceCall.isStartup hc
    have hshare : c'.isStartup.toNat ≤ c.isStartup.toNat := by
      cases hs : c'.isStartup with
      | false => exact Nat.zero_le _
      | true => rw [hle hs]
    omega
  exact { h with
    calls := forall_mem_set h.calls hr i
    sole := hcount.trans h.sole
    fresh := fun hb => by
      obtain ⟨hw, hno⟩ := h.fresh hb
      exact ⟨hw, Nat.le_zero.1 (hno ▸ hcount)⟩ }

/-- A startup takes up a worker and returns.  Nobody has a call then that
goes on, since all others had nothing to do without a worker. -/
lemma launch (h : Ordered sv callers) {u : Startup}
    (hi : callers[i]? = some (.startup u))
    (hconfig : sv'.config = sv.config) (hbegun : sv'.begun = sv.begun)
    (hworker : ∃ w, sv'.worker = some w)
    (hg : GroupsMove site sv.shutdowns sv'.shutdowns) :
    Ordered sv' (callers.set i (.returned (.ok ()))) := by
  obtain ⟨hvalid, hnone⟩ := h.calls _ (List.mem_of_getElem? hi)
  have hcount : (callers.set i (.returned (.ok ()))).countP
      ServiceCall.isStartup = 0 := by
    have hsole := h.sole
    have hadd := countP_set_add (.returned (.ok ())) ServiceCall.isStartup hi
    simp only [ServiceCall.isStartup, Bool.toNat_true, Bool.toNat_false]
      at hadd
    omega
  obtain ⟨w, hw⟩ := hworker
  exact {
    calls := fun c hc => by
      cases c with
      | startup u' =>
        exact absurd rfl (List.countP_eq_zero.1 hcount _ hc)
      | takedown t =>
        rcases List.mem_or_eq_of_mem_set hc with hc | heq
        · obtain ⟨⟨w', hw', -⟩, -⟩ := h.calls _ hc
          rw [hnone] at hw'
          cases hw'
        · cases heq
      | returned r =>
        rcases List.mem_or_eq_of_mem_set hc with hc | heq
        · exact h.calls _ hc
        · cases heq
          exact fun e he => by cases he
      | unwound => trivial
    sole := hcount ▸ Nat.zero_le 1
    fresh := fun hb => by
      have hpos : 0 < callers.countP ServiceCall.isStartup :=
        List.countP_pos_iff.2 ⟨_, List.mem_of_getElem? hi, rfl⟩
      have hno := (h.fresh (hbegun ▸ hb)).2
      omega
    valid := fun _ => hconfig ▸ hvalid
    idle := fun hw' => by
      rw [hw] at hw'
      cases hw'
    groups := hg.failsLate h.groups }

end Ordered

/-! ### Startups -/

/-- What a step of a startup leaves of a service, and what the startup
comes to: it takes up a worker and returns, or nothing at all is taken up,
be it that it goes on, fails or comes to an abnormal end. -/
structure StartupTurn (site : Site σ) (sv sv' : Service)
    (call : ServiceCall) : Prop where
  config : sv'.config = sv.config
  begun : sv'.begun = sv.begun
  groups : GroupsMove site sv.shutdowns sv'.shutdowns
  result : (∃ w, sv'.worker = some w) ∧ call = .returned (.ok ())
    ∨ (sv'.worker = sv.worker ∧ sv'.active = sv.active)
      ∧ ((∃ u, call = .startup u)
        ∨ (∃ e, call = .returned (.error e) ∧ ∀ e', e ≠ .shutdown e')
        ∨ call = .unwound)

section Startup

variable {table kept : HandlerTable} {rest : List Registration}
  {es : List Event} {call : ServiceCall} {u : Startup}

lemma Undoes.turn (h : Undoes site.now sv table sv' call) :
    StartupTurn site sv sv' call := by
  cases h with
  | nothing | refused =>
    exact ⟨rfl, rfl, .same, .inl ⟨⟨_, rfl⟩, rfl⟩⟩
  | group _ hd =>
    exact ⟨rfl, rfl, .told hd, .inr ⟨⟨rfl, rfl⟩, .inl ⟨_, rfl⟩⟩⟩

lemma StartsNext.turn (h : StartsNext site.now sv kept rest es sv' call) :
    StartupTurn site sv sv' call := by
  cases h with
  | start | publish =>
    exact ⟨rfl, rfl, .same, .inr ⟨⟨rfl, rfl⟩, .inl ⟨_, rfl⟩⟩⟩
  | undo h => exact h.turn

lemma StartupMove.turn (h : StartupMove site.now sv u es sv' call) :
    StartupTurn site sv sv' call := by
  cases h with
  | pass => exact ⟨rfl, rfl, .same, .inr ⟨⟨rfl, rfl⟩, .inl ⟨_, rfl⟩⟩⟩
  | passFailed | duplicate =>
    exact ⟨rfl, rfl, .same, .inr ⟨⟨rfl, rfl⟩,
      .inr (.inl ⟨_, rfl, fun _ => ServiceError.noConfusion⟩)⟩⟩
  | unwound => exact ⟨rfl, rfl, .same, .inr ⟨⟨rfl, rfl⟩, .inr (.inr rfl)⟩⟩
  | verified _ _ _ h =>
    obtain ⟨hc, hb, hg, hr⟩ := h.turn
    exact ⟨hc, hb, hg, hr⟩
  | started _ h | dropped _ h => exact h.turn
  | published | undone => exact ⟨rfl, rfl, .same, .inl ⟨⟨_, rfl⟩, rfl⟩⟩
  | unpublished h => exact h.turn

/-- A startup goes on. -/
lemma Ordered.startup (h : Ordered sv callers)
    (hi : callers[i]? = some (.startup u))
    (ht : StartupTurn site sv sv' call) :
    Ordered sv' (callers.set i call) := by
  obtain ⟨hworker, rfl⟩ | ⟨⟨hworker, hactive⟩, hcall⟩ := ht.result
  · exact h.launch hi ht.config ht.begun hworker ht.groups
  · have ha : sv.Abides sv' := {
      config := ht.config
      begun := ht.begun ▸ id
      active := .inl hactive
      unmanned := hworker.trans
      manned := fun w hw => ⟨w, hworker.trans hw, id⟩
      shutdowns := ht.groups.length_le }
    have hrests := h.calls _ (List.mem_of_getElem? hi)
    rcases hcall with ⟨u', rfl⟩ | ⟨e, rfl, hne⟩ | rfl
    · exact (h.abide ha ht.groups).set hi (fun _ => rfl) (hrests.abide ha)
    · refine (h.abide ha ht.groups).set hi (fun _ => rfl) fun e' he => ?_
      exact absurd (Except.error.inj he) (hne e')
    · exact (h.abide ha ht.groups).set hi (fun _ => rfl) trivial

end Startup

/-! ### Stops -/

section Takedown

variable {w w' : Worker} {h h' : Halt} {t : Halt → Takedown}
  {call : ServiceCall}

lemma Worker.running_beginAbort (w : Worker) :
    w.beginAbort.1.running = false := by
  cases hc : w.current? with
  | some i =>
    rw [beginAbort_of_some hc]
    rfl
  | none =>
    rw [beginAbort_of_none hc, abortInFlight]
    split <;> rfl

/-- A halt that goes on starts nothing. -/
lemma Worker.running_resume (hr : w.resume h = some (w', h')) :
    w'.running = w.running := by
  cases resume_cases hr with
  | stopped | nothing | cut | gone => rfl

/-- What a step of a stop leaves of a service, and what the stop comes to:
it waits, or it returns, with an error only if the wait for a group of
handlers has failed. -/
structure TakedownTurn (site : Site σ) (sv sv' : Service)
    (call : ServiceCall) : Prop where
  abides : sv.Abides sv'
  groups : GroupsMove site sv.shutdowns sv'.shutdowns
  waits : ∀ t, call = .takedown t → call.RestsOn sv'
  result : (∃ t, call = .takedown t) ∨ call = .returned (.ok ())
    ∨ ∃ k e, sv.shutdownResult? k = some (.error e)
      ∧ call = .returned (.error (.shutdown e))

/-- What handlers there are have time to stop. -/
lemma Closes.turn (hc : Closes site.now sv sv' call)
    (hv : sv.active.isEmpty = false → sv.config.validate = .ok ())
    (hw : sv.active.isEmpty = false →
      ∃ w, sv.worker = some w ∧ w.running = false) :
    TakedownTurn site sv sv' call := by
  cases hc with
  | nothing =>
    exact ⟨⟨rfl, id, .inr rfl, id, fun w hw => ⟨w, hw, id⟩, Nat.le_refl _⟩,
      .same, fun t ht => (by cases ht), .inr (.inl rfl)⟩
  | group he hd =>
    have hg := GroupsMove.told (l := sv.shutdowns) hd
    refine ⟨⟨rfl, id, .inr rfl, id, fun w hw => ⟨w, hw, id⟩, hg.length_le⟩,
      hg, fun t ht => ⟨hw he, fun k hk => ?_⟩, .inl ⟨_, rfl⟩⟩
    cases hk
    rw [List.length_append]
    exact Nat.lt_succ_self _
  | refused he hd => exact absurd hd (begin?_ne_error (hv he) he _)

/-- A stop goes on with a worker that is not to go on. -/
lemma Awaits.turn (ha : Awaits site.now sv w' t h sv' call)
    (hw : sv.worker = some w) (hrun : w'.running = false)
    (hv : sv.active.isEmpty = false → sv.config.validate = .ok ())
    (ht : ∀ h k, t h ≠ .stoppingHandlers k) :
    TakedownTurn site sv sv' call := by
  have hset : sv.Abides { sv with worker := some w' } := {
    config := rfl
    begun := id
    active := .inl rfl
    unmanned := fun hno => by
      rw [hw] at hno
      cases hno
    manned := fun _ _ => ⟨w', rfl, fun _ => hrun⟩
    shutdowns := Nat.le_refl _ }
  cases ha with
  | waits =>
    exact ⟨hset, .same, fun _ _ => ⟨⟨w', rfl, hrun⟩,
      fun k hk => absurd hk (ht _ k)⟩, .inl ⟨_, rfl⟩⟩
  | goesOn hc =>
    have hturn := hc.turn hv fun _ => ⟨w', rfl, hrun⟩
    exact ⟨hset.trans hturn.abides, hturn.groups, hturn.waits, hturn.result⟩

lemma TakedownMove.turn {u : Takedown}
    (hm : TakedownMove site.now sv u sv' call)
    (hr : (ServiceCall.takedown u).RestsOn sv)
    (hv : sv.active.isEmpty = false → sv.config.validate = .ok ()) :
    TakedownTurn site sv sv' call := by
  obtain ⟨⟨w₀, hw₀, hrun⟩, -⟩ := hr
  cases hm with
  | finished hw hr ha | gone hw hr ha =>
    obtain rfl := Option.some.inj (hw.symm.trans hw₀)
    exact ha.turn hw ((Worker.running_resume hr).trans hrun) hv
      fun _ _ => Takedown.noConfusion
  | abort hw _ _ ha =>
    exact ha.turn hw (Worker.running_beginAbort _) hv
      fun _ _ => Takedown.noConfusion
  | leave _ _ _ hc => exact hc.turn hv fun _ => ⟨w₀, hw₀, hrun⟩
  | @stopped k r hres =>
    refine ⟨⟨rfl, id, .inl rfl, id, fun w hw => ⟨w, hw, id⟩,
      Nat.le_refl _⟩, .same, fun t ht => (by cases ht), .inr ?_⟩
    cases r with
    | ok u => exact .inl rfl
    | error e => exact .inr ⟨k, e, hres, rfl⟩

/-- A stop begins. -/
lemma Takedown.turn_begin (site : Site σ) (sv : Service)
    (hv : sv.active.isEmpty = false → sv.config.validate = .ok ())
    (hidle : sv.worker = none → sv.active.isEmpty = true) :
    TakedownTurn site sv (begin site sv).service (begin site sv).call := by
  rcases (begin_cases site sv).2 with ⟨hnone, hc⟩ | ⟨w, hw, ha⟩
  · refine hc.turn hv fun he => ?_
    rw [hidle hnone] at he
    cases he
  · refine ha.turn hw ?_ hv fun _ _ => Takedown.noConfusion
    rw [(w.beginStop_eq).1]

/-- What a stop has come to is right if the waits for handlers fail in one
way only. -/
lemma TakedownTurn.restsOn (ht : TakedownTurn site sv sv' call)
    (hg : ∀ d ∈ sv.shutdowns, d.FailsLate) : call.RestsOn sv' := by
  rcases ht.result with ⟨t, rfl⟩ | rfl | ⟨k, e, hres, rfl⟩
  · exact ht.waits t rfl
  · exact fun e he => by cases he
  · intro e' he'
    cases he'
    obtain ⟨d, hd, hr⟩ := Option.bind_eq_some_iff.1 hres
    exact hg d (List.mem_of_getElem? hd) e hr

/-- A stop is no startup. -/
lemma TakedownTurn.isStartup (ht : TakedownTurn site sv sv' call) :
    call.isStartup = false := by
  rcases ht.result with ⟨t, rfl⟩ | rfl | ⟨k, e, -, rfl⟩ <;> rfl

end Takedown

/-! ### Every run -/

namespace ServiceSystem

variable {s s' : ServiceSystem σ} {mayPass : Service → Prop}
  {stops : List Nat}

/-- The runs of a service that is started and stopped in any way, with the
numbers of the calls that stop it.  Tasks take their steps in any order,
the state of the platform changes in any way, and the clock moves on in any
way while a condition on the service lets it. -/
inductive Driven (p : Platform σ) (mayPass : Service → Prop) :
    ServiceSystem σ → List Nat → Prop where
  | new (now : Nat) (world : σ) (config : Config) (hasInventory : Bool)
    (cs : List Handler) : Driven p mayPass { site := { now, world }, service :=
      { config, hasInventory, candidates := cs } } []
  | start {s : ServiceSystem σ} {stops : List Nat}
    (h : Driven p mayPass s stops) : Driven p mayPass (s.start p) stops
  | stop {s : ServiceSystem σ} {stops : List Nat}
    (h : Driven p mayPass s stops) :
    Driven p mayPass s.stop (stops ++ [s.callers.length])
  | step {s s' : ServiceSystem σ} {stops : List Nat} {t : ServiceTask}
    (h : Driven p mayPass s stops) (hs : step p s t = some s') :
    Driven p mayPass s' stops
  | pass {s : ServiceSystem σ} {stops : List Nat}
    (h : Driven p mayPass s stops) (hp : mayPass s.service) (now : Nat) :
    Driven p mayPass (s.setNow now) stops
  | outside {s : ServiceSystem σ} {stops : List Nat}
    (h : Driven p mayPass s stops) (world : σ) :
    Driven p mayPass (s.withWorld world) stops

lemma now_noteReturn (site : Site σ) (i : Nat) (c : ServiceCall) :
    (noteReturn site i c).now = site.now := by
  rw [noteReturn]
  split <;> rfl

/-- A step takes no time. -/
lemma now_of_move (hm : ServiceMove p s s') : s'.site.now = s.site.now := by
  cases hm with
  | loop hw hs =>
    obtain ⟨l, -, -, hcases⟩ := Worker.stepLoop_cases hs
    rcases hcases with ⟨-, rfl, -⟩ | ⟨-, _, _, _, _, -, hg, -⟩
    · rfl
    · exact hg.now
  | call hw hs =>
    obtain ⟨c, es, ph, -, -, hg, -⟩ := Worker.stepCall_cases hs
    exact hg.now
  | stop hd hs =>
    obtain ⟨t, es, phase, -, -, he, -⟩ := Shutdown.stepTask_cases hs
    exact he.now
  | wait => rfl
  | @caller i c c' hc hs =>
    refine (now_noteReturn _ _ _).trans ?_
    cases c with
    | startup u =>
      obtain ⟨es, he, -⟩ := Startup.step_cases hs
      exact he.now
    | takedown t => rw [(Takedown.step_cases hs).1]
    | returned | unwound => cases hs

end ServiceSystem

section Runs

variable {s s' : ServiceSystem σ} {mayPass : Service → Prop}
  {stops : List Nat} {w w' : Worker}

lemma Worker.running_stepLoop
    (hs : stepLoop p site w i = some (site', w')) :
    w'.running = w.running := by
  obtain ⟨l, -, -, hcases⟩ := stepLoop_cases hs
  rcases hcases with ⟨-, -, rfl⟩ | ⟨-, _, w₁, seen, ph, hm, -, -, rfl⟩
  · rfl
  · obtain ⟨-, -, -, hrun, -⟩ := loops_of_loopMove hm
    exact hrun

lemma Worker.running_stepCall
    (hs : stepCall p site w i = some (site', w')) :
    w'.running = w.running := by
  obtain ⟨c, es, ph, -, -, -, rfl⟩ := stepCall_cases hs
  rfl

/-- A task of the worker takes a step. -/
lemma Service.abides_worker (hw : sv.worker = some w)
    (hrun : w'.running = w.running) :
    sv.Abides { sv with worker := some w' } where
  config := rfl
  begun := id
  active := .inl rfl
  unmanned hno := by
    rw [hw] at hno
    cases hno
  manned w₀ hw₀ := by
    obtain rfl := Option.some.inj (hw.symm.trans hw₀)
    exact ⟨w', rfl, hrun.trans⟩
  shutdowns := Nat.le_refl _

/-- A task of a group of handlers takes a step. -/
lemma Service.abides_shutdowns {groups : List Shutdown}
    (hg : GroupsMove site sv.shutdowns groups) :
    sv.Abides { sv with shutdowns := groups } where
  config := rfl
  begun := id
  active := .inl rfl
  unmanned := id
  manned w hw := ⟨w, hw, id⟩
  shutdowns := hg.length_le

namespace Ordered

/-- A task takes a step. -/
lemma move (h : Ordered s.service s.callers) (hm : ServiceMove p s s') :
    Ordered s'.service s'.callers := by
  cases hm with
  | loop hw hs =>
    exact h.abide (Service.abides_worker hw (Worker.running_stepLoop hs))
      (.refl s.site _)
  | call hw hs =>
    exact h.abide (Service.abides_worker hw (Worker.running_stepCall hs))
      (.refl s.site _)
  | stop hd hs =>
    have hg := GroupsMove.task hd hs
    exact h.abide (Service.abides_shutdowns hg) hg
  | wait hd hs =>
    have hg := GroupsMove.wait hd hs
    exact h.abide (Service.abides_shutdowns hg) hg
  | @caller i c c' hc hs =>
    cases c with
    | startup u =>
      obtain ⟨es, he, hm⟩ := Startup.step_cases hs
      exact h.startup hc hm.turn
    | takedown t =>
      obtain ⟨-, hm⟩ := Takedown.step_cases hs
      have ht := hm.turn (h.calls _ (List.mem_of_getElem? hc)) h.valid
      refine (h.abide ht.abides ht.groups).set hc (fun hs => ?_)
        (ht.restsOn h.groups)
      rw [ht.isStartup] at hs
      cases hs
    | returned | unwound => cases hs

/-- Somebody stops the service. -/
lemma stop (h : Ordered s.service s.callers) :
    Ordered s.stop.service s.stop.callers := by
  have ht := Takedown.turn_begin s.site s.service h.valid h.idle
  exact (h.abide ht.abides ht.groups).add ht.isStartup (ht.restsOn h.groups)

/-- Somebody starts the service. -/
lemma start (h : Ordered s.service s.callers) :
    Ordered (s.start p).service (s.start p).callers := by
  cases hb : s.service.begun with
  | true =>
    have hrefused : Startup.begin p s.site s.service
        = ⟨s.site, s.service, .returned (.error .alreadyStarted)⟩ := by
      rw [Startup.begin, hb]
      rfl
    rw [ServiceSystem.start, hrefused]
    exact h.add rfl fun e he => by cases he
  | false =>
    obtain ⟨call, hbegin, hfirst⟩ :=
      Startup.begin_cases (p := p) s.site hb
    obtain ⟨hnone, hcount⟩ := h.fresh hb
    have ha : s.service.Abides { s.service with begun := true } :=
      ⟨rfl, fun hb => (by cases hb), .inl rfl, id,
        fun w hw => ⟨w, hw, id⟩, Nat.le_refl _⟩
    have h' := h.abide ha (.refl s.site _)
    rw [ServiceSystem.start, hbegin]
    cases hfirst with
    | refused => exact h'.add rfl fun e he => by cases he
    | passes hv =>
      exact { h' with
        calls := List.forall_mem_append.2
          ⟨h'.calls, List.forall_mem_singleton.2 ⟨hv, hnone⟩⟩
        sole := by
          rw [ServiceSystem.join, List.countP_append, hcount]
          exact Nat.le_refl 1
        fresh := fun hb => by cases hb }

end Ordered

/-- In every run the service and its calls have what they rely on. -/
theorem ServiceSystem.Driven.ordered (h : Driven p mayPass s stops) :
    Ordered s.service s.callers := by
  induction h with
  | new => exact {
      calls := List.forall_mem_nil _
      sole := Nat.zero_le 1
      fresh := fun _ => ⟨rfl, rfl⟩
      valid := fun he => by cases he
      idle := fun _ => rfl
      groups := List.forall_mem_nil _ }
  | start _ ih => exact ih.start
  | stop _ ih => exact ih.stop
  | step _ hs ih => exact ih.move (ServiceSystem.step_cases hs)
  | pass _ _ _ ih | outside _ _ ih => exact ih

/-! ### What is provided -/

/-- Whichever handlers are told to stop, there are some and they have
time. -/
def Service.CanStop (sv : Service) : Prop :=
  ∀ now table, table.isEmpty = false →
    ∃ r, sv.stopHandlers now table = .ok r

lemma Service.canStop (hv : sv.config.validate = .ok ()) : sv.CanStop := by
  intro now table he
  rw [stopHandlers]
  cases hd : Shutdown.begin? now (table.handlers.map (·.toComponent))
      sv.config.handlersShutdownTimeout true with
  | error e => exact absurd hd (begin?_ne_error hv he e)
  | ok d => exact ⟨_, rfl⟩

namespace ServiceSystem

/-- Nobody is told to stop for nothing or in no time. -/
structure Provided (s : ServiceSystem σ) : Prop where
  /-- A startup that goes on can stop the handlers that it has started. -/
  undo : ∀ u, .startup u ∈ s.callers → s.service.CanStop
  /-- The handlers that are at work can be stopped. -/
  close : s.service.active.isEmpty = false → s.service.CanStop
  /-- No wait for handlers fails but by taking too long, be it that of a
  startup or that of a stop. -/
  groups : ∀ d ∈ s.service.shutdowns, d.FailsLate
  /-- No call returns any other error of this sort. -/
  answers : ∀ i e, s.answer? i = some (.error (.shutdown e)) →
    ∃ n timeout, e = .notTerminated n timeout

lemma Driven.provided (h : Driven p mayPass s stops) : s.Provided where
  undo u hu := Service.canStop (h.ordered.calls _ hu).1
  close he := Service.canStop (h.ordered.valid he)
  groups := h.ordered.groups
  answers i e he := by
    rw [answer?] at he
    split at he
    · next r hr =>
      exact h.ordered.calls _ (List.mem_of_getElem? hr) e
        (Option.some.inj he)
    · cases he

end ServiceSystem

end Runs

end RemoteOps
