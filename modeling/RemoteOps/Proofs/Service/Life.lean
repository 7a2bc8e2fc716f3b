/-
The life of a service: it is started once and then stopped, again and
again, each call being made after the one before has returned.

* `ServiceSystem.Life`: the states of such a run;
* `ServiceSystem.Sole`: all calls but one have returned;
* `ServiceSystem.Present`: all calls but the last one have returned;
* `ServiceSystem.Life.keeps`: to see that a run keeps a property, it is
  enough to look at each move with the present call.
-/
import RemoteOps.Proofs.Service.Moves

namespace RemoteOps.ServiceSystem

variable {σ : Type} {p : Platform σ} {s s' : ServiceSystem σ} {n now : Nat}
  {world : σ} {config : Config} {hasInventory : Bool} {cs : List Handler}
  {call : ServiceCall}

/-- Replaces the state of the platform, as the world outside does. -/
def withWorld (s : ServiceSystem σ) (world : σ) : ServiceSystem σ :=
  { s with site := { s.site with world } }

/-- The clock shows a time. -/
def setNow (s : ServiceSystem σ) (now : Nat) : ServiceSystem σ :=
  { s with site := { s.site with now } }

/-- A run in which a service is started once and has been stopped a number
of times, each time after the call before had returned.  The tasks take
their steps in any order, the state of the platform changes in any way, and
the clock moves on in any way when no task can take a step. -/
inductive Life (p : Platform σ) (now : Nat) (world : σ) (config : Config)
    (hasInventory : Bool) (cs : List Handler) :
    Nat → ServiceSystem σ → Prop where
  | start : Life p now world config hasInventory cs 0
    (start p { site := { now, world }, service :=
      { config, hasInventory, candidates := cs } })
  | step {n : Nat} {s s' : ServiceSystem σ} {t : ServiceTask}
    (h : Life p now world config hasInventory cs n s)
    (hs : ServiceSystem.step p s t = some s') :
    Life p now world config hasInventory cs n s'
  | pass {n : Nat} {s : ServiceSystem σ}
    (h : Life p now world config hasInventory cs n s)
    (hidle : (machine p).Idle s) (now' : Nat) :
    Life p now world config hasInventory cs n (s.setNow now')
  | stop {n : Nat} {s : ServiceSystem σ}
    (h : Life p now world config hasInventory cs n s)
    (hr : s.hasReturned n = true) :
    Life p now world config hasInventory cs (n + 1) s.stop
  | outside {n : Nat} {s : ServiceSystem σ}
    (h : Life p now world config hasInventory cs n s) (world' : σ) :
    Life p now world config hasInventory cs n (s.withWorld world')

lemma Life.of_runs (h : Life p now world config hasInventory cs n s)
    (hr : (machine p).Runs s s') :
    Life p now world config hasInventory cs n s' := by
  induction hr with
  | refl => exact h
  | tail _ hs ih =>
    cases hs with
    | run t ht => exact ih.step ht
    | wait hidle => exact ih.pass hidle _

/-- All calls but one have returned. -/
structure Sole (s : ServiceSystem σ) (k : Nat) (call : ServiceCall) :
    Prop where
  getElem?_eq : s.callers[k]? = some call
  others : ∀ i c, s.callers[i]? = some c → c.isOver = false → i = k

namespace Sole

/-- Only the one call can take a step. -/
lemma eq_of_stepCall {k : Nat} (h : s.Sole k call) {i : Nat}
    {c : ServiceCall} {c' : CallState σ} (hc : s.callers[i]? = some c)
    (hs : s.stepCall p c = some c') : i = k ∧ c = call := by
  have hover : c.isOver = false := by
    cases c with
    | returned r => cases hs
    | startup u | takedown t | unwound => rfl
  obtain rfl := h.others i c hc hover
  exact ⟨rfl, Option.some.inj (hc.symm.trans h.getElem?_eq)⟩

/-- The one call goes on. -/
lemma set {k : Nat} (h : s.Sole k call) {call' : ServiceCall}
    (hs : s'.callers = s.callers.set k call') : s'.Sole k call' where
  getElem?_eq := by
    rw [hs, List.getElem?_set_self
      (List.getElem?_eq_some_iff.1 h.getElem?_eq).1]
  others i c hc hover := by
    by_contra hik
    rw [hs, List.getElem?_set_ne (Ne.symm hik)] at hc
    exact hik (h.others i c hc hover)

/-- A call is made that returns at once. -/
lemma join {k : Nat} (h : s.Sole k call) {c : CallState σ}
    (hover : c.call.isOver = true) : (s.join c).Sole k call where
  getElem?_eq := by
    rw [ServiceSystem.join, List.getElem?_append_left
      (List.getElem?_eq_some_iff.1 h.getElem?_eq).1]
    exact h.getElem?_eq
  others i c' hc hopen := by
    rw [ServiceSystem.join, List.getElem?_append] at hc
    split at hc
    · exact h.others i c' hc hopen
    · rw [List.mem_singleton.1 (List.mem_of_getElem? hc), hover] at hopen
      cases hopen

end Sole

/-- A call is the last of those that were made, and all others have
returned. -/
structure Present (s : ServiceSystem σ) (n : Nat) (call : ServiceCall) :
    Prop where
  callers : ∃ returned, s.callers = returned ++ [call]
    ∧ returned.length = n ∧ ∀ c ∈ returned, c.isOver = true

namespace Present

lemma getElem?_eq (h : s.Present n call) : s.callers[n]? = some call := by
  obtain ⟨returned, hc, rfl, -⟩ := h.callers
  rw [hc, List.getElem?_concat_length]

lemma isOver_iff (h : s.Present n call) :
    call.isOver = true ↔ s.hasReturned n = true := by
  rw [hasReturned, answer?, h.getElem?_eq]
  cases call <;> simp [ServiceCall.isOver]

lemma sole (h : s.Present n call) : s.Sole n call where
  getElem?_eq := h.getElem?_eq
  others i c hc hopen := by
    obtain ⟨returned, heq, rfl, hall⟩ := h.callers
    rw [heq] at hc
    rcases Nat.lt_trichotomy i returned.length with hlt | rfl | hgt
    · rw [List.getElem?_append_left hlt] at hc
      rw [hall c (List.mem_of_getElem? hc)] at hopen
      cases hopen
    · rfl
    · rw [List.getElem?_eq_none (by simp; omega)] at hc
      cases hc

/-- The present call goes on. -/
lemma set (h : s.Present n call) {call' : ServiceCall}
    (hs : s'.callers = s.callers.set n call') : s'.Present n call' := by
  obtain ⟨returned, heq, rfl, hall⟩ := h.callers
  refine ⟨returned, ?_, rfl, hall⟩
  rw [hs, heq, List.set_append_right _ _ (Nat.le_refl _), Nat.sub_self]
  rfl

/-- The next call is made. -/
lemma join (h : s.Present n call) (hover : call.isOver = true)
    (c : CallState σ) : (s.join c).Present (n + 1) c.call := by
  obtain ⟨returned, heq, rfl, hall⟩ := h.callers
  refine ⟨s.callers, rfl, by simp [heq], fun c' hc' => ?_⟩
  rw [heq] at hc'
  rcases List.mem_append.1 hc' with hc' | hc'
  · exact hall c' hc'
  · rw [List.mem_singleton.1 hc', hover]

end Present

/-- A property of the number of stops, the site, the service and the
present call that every move keeps. -/
structure Kept (p : Platform σ)
    (P : Nat → Site σ → Service → ServiceCall → Prop) : Prop where
  noted : ∀ {n site sv call} (i : Nat), call.isOver = true →
    P n site sv call → P n (site.note (.returned i)) sv call
  outside : ∀ {n site sv call} (world : σ), P n site sv call →
    P n { site with world } sv call
  clock : ∀ {n call} {s : ServiceSystem σ} (d : Nat), s.Present n call →
    (machine p).Idle s → P n s.site s.service call →
    P n { s.site with now := d } s.service call
  loop : ∀ {n site sv call w site' w' i}, sv.worker = some w →
    Worker.stepLoop p site w i = some (site', w') → P n site sv call →
    P n site' { sv with worker := some w' } call
  call : ∀ {n site sv call w site' w' i}, sv.worker = some w →
    Worker.stepCall p site w i = some (site', w') → P n site sv call →
    P n site' { sv with worker := some w' } call
  stopTask : ∀ {n site sv call group d site' d' i},
    sv.shutdowns[group]? = some d →
    Shutdown.stepTask site d i = some (site', d') → P n site sv call →
    P n site' { sv with shutdowns := sv.shutdowns.set group d' } call
  wait : ∀ {n site sv call group d d'}, sv.shutdowns[group]? = some d →
    Shutdown.stepWait site.now d = some d' → P n site sv call →
    P n site { sv with shutdowns := sv.shutdowns.set group d' } call
  startup : ∀ {n site sv u es} {c : CallState σ},
    site.Enters es c.site → StartupMove site.now sv u es c.service c.call →
    P n site sv (.startup u) → P n c.site c.service c.call
  takedown : ∀ {n site sv t sv' call}, TakedownMove site.now sv t sv' call →
    P n site sv (.takedown t) → P n site sv' call
  stop : ∀ {n site sv call}, call.isOver = true → P n site sv call →
    P (n + 1) site (Takedown.begin site sv).service
      (Takedown.begin site sv).call

namespace Kept

variable {P : Nat → Site σ → Service → ServiceCall → Prop} (hk : Kept p P)

include hk

lemma noteReturn {site : Site σ} {sv : Service} (i : Nat)
    (h : P n site sv call) :
    P n (ServiceSystem.noteReturn site i call) sv call := by
  rw [ServiceSystem.noteReturn]
  split
  · next hover => exact hk.noted i hover h
  · exact h

/-- The move of a task when one call may still go on. -/
lemma move_sole {k : Nat} (hm : ServiceMove p s s') (hp : s.Sole k call)
    (h : P n s.site s.service call) :
    ∃ call', s'.callers = s.callers.set k call'
      ∧ P n s'.site s'.service call' := by
  have hsame : s.callers = s.callers.set k call := by
    obtain ⟨hk, hget⟩ := List.getElem?_eq_some_iff.1 hp.getElem?_eq
    rw [← hget, List.set_getElem_self hk]
  cases hm with
  | loop hw hs => exact ⟨call, hsame, hk.loop hw hs h⟩
  | call hw hs => exact ⟨call, hsame, hk.call hw hs h⟩
  | stop hd hs => exact ⟨call, hsame, hk.stopTask hd hs h⟩
  | wait hd hs => exact ⟨call, hsame, hk.wait hd hs h⟩
  | @caller i c c' hc hs =>
    obtain ⟨rfl, rfl⟩ := hp.eq_of_stepCall hc hs
    refine ⟨c'.call, rfl, hk.noteReturn i ?_⟩
    cases c with
    | startup u =>
      obtain ⟨es, he, hm⟩ := Startup.step_cases hs
      exact hk.startup he hm h
    | takedown t =>
      obtain ⟨hsite, hm⟩ := Takedown.step_cases hs
      rw [hsite]
      exact hk.takedown hm h
    | returned | unwound => cases hs

/-- The move of a task. -/
lemma move (hm : ServiceMove p s s') (hp : s.Present n call)
    (h : P n s.site s.service call) :
    ∃ call', s'.Present n call' ∧ P n s'.site s'.service call' := by
  obtain ⟨call', hs, h'⟩ := hk.move_sole hm hp.sole h
  exact ⟨call', hp.set hs, h'⟩

end Kept

/-- A property that every move keeps holds in a run if it holds when the
startup has begun. -/
theorem Life.keeps {P : Nat → Site σ → Service → ServiceCall → Prop}
    (hk : Kept p P)
    (hbegin : ∀ call, FirstCall config call → P 0 { now, world }
      { config, hasInventory, candidates := cs, begun := true } call)
    (h : Life p now world config hasInventory cs n s) :
    ∃ call, s.Present n call ∧ P n s.site s.service call := by
  induction h with
  | start =>
    have hbegun : Service.begun
        { config, hasInventory, candidates := cs } = false := rfl
    obtain ⟨call, hb, hcall⟩ :=
      Startup.begin_cases (p := p) { now, world } hbegun
    refine ⟨call, ⟨[], ?_, rfl, fun c hc => by cases hc⟩, ?_⟩
    · rw [ServiceSystem.start, hb]
      rfl
    · rw [ServiceSystem.start, hb]
      exact hk.noteReturn 0 (hbegin call hcall)
  | step h hs ih =>
    obtain ⟨call, hp, hP⟩ := ih
    exact hk.move (step_cases hs) hp hP
  | pass h hidle now' ih =>
    obtain ⟨call, hp, hP⟩ := ih
    exact ⟨call, ⟨hp.callers⟩, hk.clock now' hp hidle hP⟩
  | @stop n s h hr ih =>
    obtain ⟨call, hp, hP⟩ := ih
    have hover := hp.isOver_iff.2 hr
    refine ⟨_, hp.join hover _, ?_⟩
    have hP' := hk.stop hover hP
    show P (n + 1) (ServiceSystem.noteReturn
      (Takedown.begin s.site s.service).site _ _) _ _
    rw [(Takedown.begin_cases s.site s.service).1]
    exact hk.noteReturn _ hP'
  | outside h world' ih =>
    obtain ⟨call, hp, hP⟩ := ih
    exact ⟨call, ⟨hp.callers⟩, hk.outside world' hP⟩

end RemoteOps.ServiceSystem
