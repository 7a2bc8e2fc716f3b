/-
A service whose first caller starts it, all other callers having
returned.

Until there is a worker, and as long as no handlers are told to stop,
the startup is the only task: it waits for its time and goes on.

* `Startup.world_verify`: verifying the handlers calls no platform;
* `ServiceSystem.only_wait`, `ServiceSystem.only_resume`: the next step
  of a startup is the only one;
* `ServiceSystem.leads_startup`: what a startup does next is certain.
-/
import Mathlib.Tactic.Lemma
import RemoteOps.Proofs.Schedule
import RemoteOps.Service.System

namespace RemoteOps

/-! ### The platform -/

namespace Startup

variable {σ : Type} (p : Platform σ) (site : Site σ) (sv : Service)

lemma world_undo (table : HandlerTable) :
    (undo site sv table).site.world = site.world := by
  rw [undo]
  split
  · rfl
  · split <;> rfl

lemma world_startNext (kept : HandlerTable) (rest : List Registration) :
    (startNext p site sv kept rest).site.world = site.world := by
  cases rest with
  | nil =>
    rw [startNext, publish]
    split
    · rfl
    · exact world_undo site sv kept
  | cons r rest => rfl

/-- Verifying the handlers calls no platform. -/
lemma world_verify : (verify p site sv).site.world = site.world := by
  rw [verify]
  split
  · exact world_startNext ..
  · rfl

end Startup

/-! ### The steps -/

namespace ServiceSystem

variable {σ : Type} {p : Platform σ}

/-- A service with a single caller. -/
def alone (c : CallState σ) : ServiceSystem σ where
  site := noteReturn c.site 0 c.call
  service := c.service
  callers := [c.call]

/-- A service with a first caller and with later ones. -/
def ahead (later : List ServiceCall) (c : CallState σ) :
    ServiceSystem σ where
  site := noteReturn c.site 0 c.call
  service := c.service
  callers := c.call :: later

lemma world_alone (c : CallState σ) : (alone c).site.world = c.site.world := by
  rw [alone, noteReturn]
  split <;> rfl

lemma start_eq_alone (site : Site σ) (sv : Service) :
    start p { site, service := sv } = alone (Startup.begin p site sv) :=
  rfl

lemma isReady_eq {u : Startup} {due : Nat} (hu : u.due? = some due)
    (sv : Service) (now : Nat) : u.isReady now sv = decide (due ≤ now) := by
  cases u with
  | undoing i => cases hu
  | _ => simp [Startup.isReady, hu]

/-- Who has returned waits for nothing. -/
lemma filterMap_callWake?_eq_nil {later : List ServiceCall}
    (h : ∀ c ∈ later, c.isOver = true) :
    later.filterMap callWake? = [] := by
  refine List.filterMap_eq_nil_iff.2 fun c hc => ?_
  have hover := h c hc
  cases c with
  | returned r => rfl
  | startup | takedown | unwound => cases hover

section Next

variable {site : Site σ} {sv : Service} {u : Startup}
  {later : List ServiceCall}

/-- The tasks of a worker or of a shutdown do nothing when there is none,
and who has returned does nothing either. -/
lemma step_ahead_of_ne (hw : sv.worker = none) (hd : sv.shutdowns = [])
    (hlater : ∀ c ∈ later, c.isOver = true) (c : ServiceCall)
    {t : ServiceTask} (ht : t ≠ .caller 0) :
    step p { site, service := sv, callers := c :: later } t = none := by
  cases t with
  | loop i | call i => simp [step, stepWorker, hw]
  | stop group i => simp [step, hd]
  | wait group => simp [step, hd]
  | caller i =>
    cases i with
    | zero => exact absurd rfl ht
    | succ i =>
      rw [step, List.getElem?_cons_succ]
      cases hc : later[i]? with
      | none => rfl
      | some c' =>
        have hover := hlater c' (List.mem_of_getElem? hc)
        cases c' with
        | returned r => rfl
        | startup | takedown | unwound => cases hover

lemma step_alone_of_ne (hw : sv.worker = none) (hd : sv.shutdowns = [])
    (c : ServiceCall) {t : ServiceTask} (ht : t ≠ .caller 0) :
    step p { site, service := sv, callers := [c] } t = none :=
  step_ahead_of_ne hw hd (List.forall_mem_nil _) c ht

variable {due : Nat} (hw : sv.worker = none) (hd : sv.shutdowns = [])
  (hlater : ∀ c ∈ later, c.isOver = true) (hu : u.due? = some due)

include hw hd hlater hu

/-- Before its time has come, a startup waits. -/
lemma only_wait (hlt : site.now < due) : (machine p).Only
    { site, service := sv, callers := .startup u :: later }
    { site := { site with now := due }, service := sv
      callers := .startup u :: later } := by
  refine .of_wait (fun t => ?_) ?_ hlt
  · by_cases ht : t = .caller 0
    · subst ht
      simp [machine, step, stepCall, Startup.step, isReady_eq hu, hlt]
    · exact step_ahead_of_ne hw hd hlater _ ht
  · show wakes _ = [due]
    simp only [wakes, hw, hd, List.filterMap_cons, callWake?, hu,
      filterMap_callWake?_eq_nil hlater]
    rfl

/-- When its time has come, a startup goes on. -/
lemma only_resume (hle : due ≤ site.now) : (machine p).Only
    { site, service := sv, callers := .startup u :: later }
    (ahead later (u.resume p site sv)) := by
  refine .of_run (t := .caller 0) ?_
    fun t ht => step_ahead_of_ne hw hd hlater _ ht
  simp [machine, step, stepCall, Startup.step, isReady_eq hu, hle, ahead]

end Next

variable {site : Site σ} {sv : Service} {u : Startup}

/-- What a startup does next is certain: it goes on when its time has
come. -/
theorem leads_startup {due : Nat} (hw : sv.worker = none)
    (hd : sv.shutdowns = []) (hu : u.due? = some due) :
    (machine p).Leads { site, service := sv, callers := [.startup u] }
      (alone (u.resume p { site with now := max site.now due } sv)) := by
  have hnil : ∀ c ∈ ([] : List ServiceCall), c.isOver = true :=
    List.forall_mem_nil _
  by_cases hlt : site.now < due
  · rw [Nat.max_eq_right (Nat.le_of_lt hlt)]
    exact (only_wait hw hd hnil hu hlt).leads.trans
      (only_resume hw hd hnil hu (Nat.le_refl due)).leads
  · have hle : due ≤ site.now := Nat.not_lt.1 hlt
    rw [Nat.max_eq_left hle]
    exact (only_resume hw hd hnil hu hle).leads

end ServiceSystem

end RemoteOps
