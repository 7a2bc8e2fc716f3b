/-
Callers of whom none leaves the worker behind.

A caller whose time is over has the worker cut off and waits for it a
little longer.  If whatever is cut off is gone by then, every caller sees
the end of the loop and of its calls, and once all have returned nothing
keeps running.

* `ServiceSystem.CutsInTime`: what is cut off has time left to go;
* `ServiceSystem.Thorough`: the invariant of callers who leave nothing
  behind;
* `ServiceSystem.Thorough.move`, `ServiceSystem.Thorough.clock`,
  `ServiceSystem.Thorough.stop`: every change keeps it;
* `ServiceSystem.Down`, `ServiceSystem.Crowd.down_of_thorough`: nothing
  keeps running when all of them have returned.
-/
import RemoteOps.Proofs.Service.Crowd

namespace RemoteOps

/-- Until when a caller waits for what was cut off. -/
def ServiceCall.cutDeadline? : ServiceCall → Option Nat
  | .takedown (.abortingWorker _ deadline) => some deadline
  | .takedown (.stoppingWorker _ _) | .takedown (.stoppingHandlers _)
  | .startup _ | .returned _ | .unwound => none

lemma ServiceCall.cutDeadline?_eq_none {c : ServiceCall}
    (h : c.isOver = true ∨ c.isOfStartup = true) :
    c.cutDeadline? = none := by
  cases c with
  | startup | returned | unwound => rfl
  | takedown t => rcases h with h | h <;> cases h

namespace ServiceSystem

variable {σ : Type} {p : Platform σ} {site site' : Site σ} {now i : Nat}
  {sv sv' : Service} {call : ServiceCall} {w w' : Worker}
  {cs : List Handler} {late : Bool} {callers A B : List ServiceCall}
  {s s' : ServiceSystem σ}

/-! ### The invariant -/

/-- Whatever is being cut off will be gone before the callers who wait for
it leave it behind. -/
def CutsInTime (s : ServiceSystem σ) (now : Nat) : Prop :=
  ∀ c ∈ s.callers, ∀ deadline ∈ c.cutDeadline?, now < deadline

instance (s : ServiceSystem σ) (now : Nat) : Decidable (s.CutsInTime now) :=
  inferInstanceAs (Decidable
    (∀ c ∈ s.callers, ∀ deadline ∈ c.cutDeadline?, now < deadline))

/-- Callers of whom none leaves the worker behind. -/
structure Thorough (late : Bool) (now : Nat) (sv : Service)
    (callers : List ServiceCall) : Prop where
  reliesOn : ∀ c ∈ callers, c.ReliesOn 1 now sv
  engaged : ∀ w, sv.worker = some w →
    w.Engaged (callers.flatMap ServiceCall.halts)
  stopped : late = true → AwaitsWorker callers
    ∨ ∀ w, sv.worker = some w → w.state = .stopped

namespace Thorough

lemma of_late (h : Thorough true now sv callers) :
    Thorough late now sv callers :=
  { h with stopped := fun _ => h.stopped rfl }

/-- All calls have returned, and the worker was never waited for. -/
lemma of_forall_isOver (hover : ∀ c ∈ callers, c.isOver = true)
    (hengaged : ∀ w, sv.worker = some w → w.Engaged []) :
    Thorough false now sv callers where
  reliesOn c hc := by
    have hc' := hover c hc
    cases c with
    | returned r => trivial
    | startup | takedown | unwound => cases hc'
  engaged w hw := by
    rw [halts_of_forall_isOver hover]
    exact hengaged w hw
  stopped hno := by cases hno

/-- Who aborts does not let the clock move. -/
lemma cutsInTime_of_idle
    (h : Thorough late s.site.now s.service s.callers)
    (hidle : (machine p).Idle s) (now : Nat) : s.CutsInTime now := by
  intro c hmem deadline hd
  cases c with
  | startup | returned | unwound => cases hd
  | takedown t =>
    cases t with
    | stoppingWorker | stoppingHandlers => cases hd
    | abortingWorker =>
      obtain ⟨-, w, hw, hcut⟩ := h.reliesOn _ hmem
      obtain ⟨i, hi⟩ := List.mem_iff_getElem?.1 hmem
      exact absurd hidle (not_idle_of_cutOff hi hw hcut)

/-- Time passes. -/
lemma clock {d : Nat} (h : Thorough late now s.service s.callers)
    (hcut : s.CutsInTime d) : Thorough late d s.service s.callers :=
  { h with
    reliesOn := fun c hc => by
      have hrelies := h.reliesOn c hc
      cases c with
      | startup | returned | unwound => trivial
      | takedown t =>
        cases t with
        | stoppingWorker | stoppingHandlers => exact hrelies
        | abortingWorker => exact ⟨hcut _ hc _ rfl, hrelies.2⟩ }

/-- The worker has taken a step. -/
lemma setWorker (h : Thorough late now sv callers) (hw : sv.worker = some w)
    (hengaged : w'.Engaged (callers.flatMap ServiceCall.halts))
    (hstate : w'.state = w.state)
    (hcut : ∀ halt ∈ callers.flatMap ServiceCall.halts, w.CutOff halt →
      w'.CutOff halt) :
    Thorough late now { sv with worker := some w' } callers where
  reliesOn c hc := reliesOn_setWorker (h.reliesOn c hc) hw fun halt hmem =>
    hcut halt (List.mem_flatMap.2 ⟨c, hc, hmem⟩)
  engaged _ hw₁ := Option.some.inj hw₁ ▸ hengaged
  stopped hlate := (h.stopped hlate).imp_right fun hs _ hw₁ =>
    Option.some.inj hw₁ ▸ hstate.trans (hs w hw)

lemma stepLoop (h : Thorough late now sv callers) (hw : sv.worker = some w)
    (hs : Worker.stepLoop p site w i = some (site', w')) :
    Thorough late now { sv with worker := some w' } callers :=
  h.setWorker hw ((h.engaged w hw).stepLoop hs)
    (Worker.stepLoop_phases hs).2 fun _ hmem hcut =>
      hcut.stepLoop (h.engaged w hw) hmem hs

lemma stepCall (h : Thorough late now sv callers) (hw : sv.worker = some w)
    (hs : Worker.stepCall p site w i = some (site', w')) :
    Thorough late now { sv with worker := some w' } callers :=
  h.setWorker hw ((h.engaged w hw).stepCall hs)
    (Worker.stepCall_phases hs).2 fun _ _ hcut => hcut.stepCall hs

/-- The handlers that were told to stop do not concern the worker. -/
lemma setShutdowns (h : Thorough late now sv callers)
    (groups : List Shutdown) :
    Thorough late now { sv with shutdowns := groups } callers :=
  { h with
    reliesOn := fun c hc => by
      have hrelies := h.reliesOn c hc
      cases c with
      | startup | returned | unwound => trivial
      | takedown t => cases t <;> exact hrelies }

/-- The handlers that are at work are told to stop by a caller who joins
the others. -/
lemma closes (h : Thorough false now sv (A ++ B))
    (hstopped : ∀ w, sv.worker = some w → w.state = .stopped)
    (hc : Closes now sv sv' call) :
    Thorough true now sv' (A ++ call :: B) := by
  have hhalts : call.halts = [] := by
    cases hc <;> rfl
  have hown : call.ReliesOn 1 now sv' := by
    cases hc with
    | nothing | refused => trivial
    | group => exact ⟨rfl, rfl⟩
  have hothers : ∀ c ∈ A ++ B, c.ReliesOn 1 now sv' := fun c hmem => by
    have hrelies := h.reliesOn c hmem
    cases c with
    | startup | returned | unwound => trivial
    | takedown t =>
      cases t with
      | stoppingWorker => exact hrelies
      | stoppingHandlers => exact ⟨rfl, hc.active_eq⟩
      | abortingWorker => rwa [ServiceCall.ReliesOn, hc.worker_eq]
  exact {
    reliesOn := forall_mem_middle.2 ⟨hown, hothers⟩
    engaged := fun w hw => by
      rw [halts_middle, hhalts, List.nil_append, ← List.flatMap_append]
      exact h.engaged w (hc.worker_eq ▸ hw)
    stopped := fun _ => .inr fun w hw => hstopped w (hc.worker_eq ▸ hw) }

/-- Taking the service down goes on with its worker for one caller, while
the others keep to what they wait for. -/
lemma await {halt : Halt} {t : Halt → Takedown}
    (h : Thorough late now sv callers) (hsub : ∀ c ∈ A ++ B, c ∈ callers)
    (hw : sv.worker = some w) (hcut : ∀ g, w.CutOff g → w'.CutOff g)
    (hengaged : w'.Engaged
      (A.flatMap ServiceCall.halts ++ halt :: B.flatMap ServiceCall.halts))
    (hhalts : ServiceCall.halts (.takedown (t halt)) = [halt])
    (hstopped : halt = .returned → w'.state = .stopped)
    (hrelies : halt ≠ .returned → ServiceCall.ReliesOn 1 now
      { sv with worker := some w' } (.takedown (t halt)))
    (ha : Awaits now sv w' t halt sv' call) :
    Thorough true now sv' (A ++ call :: B) := by
  have hothers : ∀ c ∈ A ++ B,
      c.ReliesOn 1 now { sv with worker := some w' } := fun c hc =>
    reliesOn_setWorker (h.reliesOn c (hsub c hc)) hw fun g _ => hcut g
  cases ha with
  | waits hh =>
    exact {
      reliesOn := forall_mem_middle.2 ⟨hrelies hh, hothers⟩
      engaged := fun w₁ hw₁ => by
        rw [halts_middle, hhalts, List.singleton_append]
        exact Option.some.inj hw₁ ▸ hengaged
      stopped := fun _ =>
        .inl ⟨_, mem_middle.2 (.inl rfl), by simp [hhalts]⟩ }
  | goesOn hc =>
    have h' : Thorough false now { sv with worker := some w' } (A ++ B) := {
      reliesOn := hothers
      engaged := fun w₁ hw₁ => by
        rw [List.flatMap_append]
        exact Option.some.inj hw₁ ▸ hengaged.of_returned
      stopped := fun hno => by cases hno }
    exact h'.closes (fun w₁ hw₁ => Option.some.inj hw₁ ▸ hstopped rfl) hc

/-- Who has waited for the handlers returns. -/
lemma returns {r : Except ServiceError Unit}
    (h : Thorough late now sv (A ++ .takedown (.stoppingHandlers i) :: B)) :
    Thorough late now sv (A ++ .returned r :: B) where
  reliesOn := forall_mem_middle.2
    ⟨trivial, (forall_mem_middle.1 h.reliesOn).2⟩
  engaged w hw := by
    have he := h.engaged w hw
    rwa [halts_middle] at he ⊢
  stopped hlate := (h.stopped hlate).imp_left (.replace rfl)

/-- A caller goes on with taking the service down. -/
lemma takedown {t : Takedown}
    (h : Thorough late now sv (A ++ .takedown t :: B))
    (hm : TakedownMove now sv t sv' call) :
    Thorough late now sv' (A ++ call :: B) := by
  have hsub : ∀ c ∈ A ++ B, c ∈ A ++ .takedown t :: B := fun c hc =>
    mem_middle.2 (.inr hc)
  have hrelies := h.reliesOn _ (mem_middle.2 (.inl rfl))
  have hengaged : ∀ halt, ServiceCall.halts (.takedown t) = [halt] →
      ∀ w, sv.worker = some w → w.Engaged (A.flatMap ServiceCall.halts
        ++ halt :: B.flatMap ServiceCall.halts) := by
    intro halt hhalt w hw
    have he := h.engaged w hw
    rwa [halts_middle, hhalt, List.singleton_append] at he
  cases hm with
  | finished hw hr ha =>
    obtain ⟨i, rfl⟩ := hrelies
    obtain ⟨-, rfl⟩ := Worker.resume_exited hr
    exact (h.await hsub hw (fun _ hcut => hcut.resume_other hr)
      ((hengaged _ rfl _ hw).resume_at hr) rfl
      (fun _ => Worker.state_of_resume hr) (fun hne => absurd rfl hne)
      ha).of_late
  | abort hw hr hdue ha =>
    obtain ⟨i, rfl⟩ := hrelies
    obtain ⟨k, hk⟩ := Worker.exists_current?_of_resume hr
    refine (h.await hsub hw (fun _ hcut => hcut.beginAbort_other hk)
      (hengaged _ rfl _ hw).abort_at rfl (fun hret => ?_) (fun _ => ?_)
      ha).of_late
    · rw [Worker.beginAbort_of_some hk] at hret
      cases hret
    · exact ⟨Span.lt_deadline rfl, _, rfl, .beginAbort hk⟩
  | gone hw hr ha =>
    obtain ⟨hlt, w₀, hw₀, hcut⟩ := hrelies
    obtain rfl := Option.some.inj (hw₀.symm.trans hw)
    refine (h.await hsub hw (fun _ hcut => hcut.resume_other hr)
      ((hengaged _ rfl _ hw).resume_at hr) rfl (fun hret => ?_)
      (fun hne => ?_) ha).of_late
    · subst hret
      exact Worker.state_of_resume hr
    · exact ⟨hlt, _, rfl, hcut.resume hr hne⟩
  | leave hw hr hdue hc =>
    -- the time of a caller who cuts off is not over
    exact absurd hdue (Nat.not_le_of_gt hrelies.1)
  | stopped hr => exact h.returns

/-- A further caller stops the service. -/
lemma stop (h : Thorough late site.now sv callers)
    (hsingle : ∀ w, sv.worker = some w → w.loops.length = 1) :
    Thorough true site.now (Takedown.begin site sv).service
      (callers ++ [(Takedown.begin site sv).call]) := by
  rcases (Takedown.begin_cases site sv).2 with ⟨hw, hc⟩ | ⟨w, hw, ha⟩
  · have h' : Thorough false site.now sv (callers ++ []) := by
      rw [List.append_nil]
      exact { h with stopped := fun hno => by cases hno }
    exact h'.closes (fun w hw' => by rw [hw] at hw'; cases hw') hc
  · have hsub : ∀ c, c ∈ callers ++ [] ↔ c ∈ callers := by simp
    have hhalt := Worker.beginStop_snd (hsingle w hw)
    refine h.await (fun c => (hsub c).1) hw
      (fun _ hcut => hcut.beginStop_other) (h.engaged w hw).beginStop rfl
      (fun hret => ?_) (fun _ => ?_) ha
    · rw [hhalt] at hret
      cases hret
    · exact ⟨0, hhalt⟩

/-- Every move keeps the callers thorough. -/
theorem move (hm : ServiceMove p s s')
    (h : Thorough late s.site.now s.service s.callers)
    (hpast : ∀ c ∈ s.callers, c.isOfStartup = false) :
    Thorough late s.site.now s'.service s'.callers := by
  cases hm with
  | loop hw hs => exact h.stepLoop hw hs
  | call hw hs => exact h.stepCall hw hs
  | stop hd hs | wait hd hs => exact h.setShutdowns _
  | @caller i c c' hc hs =>
    obtain ⟨A, B, hcallers, hset⟩ := exists_eq_middle hc
    have hpast' := hpast c (List.mem_of_getElem? hc)
    rw [hcallers] at h
    show Thorough late _ c'.service (s.callers.set i c'.call)
    rw [hset]
    cases c with
    | startup | unwound => cases hpast'
    | takedown t => exact h.takedown (Takedown.step_cases hs).2
    | returned r => cases hs

end Thorough

/-! ### What is left -/

/-- Nothing that a service has brought up keeps running. -/
structure Down (s : ServiceSystem σ) : Prop extends Released s where
  worker : s.service.workerState? ≠ some .started
  gone : ∀ w, s.service.worker = some w →
    (∀ i, w.loopIsOver i = true) ∧ ∀ i, w.callIsOver i = true

/-- None of them has left the worker behind. -/
theorem Crowd.down_of_thorough
    (h : Crowd cs true s.site s.service s.callers)
    (ht : Thorough true s.site.now s.service s.callers)
    (hover : ∀ c ∈ s.callers, c.isOver = true) : s.Down := by
  have hstate := (ht.stopped rfl).resolve_left (not_awaitsWorker hover)
  exact { h.released hover with
    worker := fun hst => by
      obtain ⟨w, hw, heq⟩ := Option.map_eq_some_iff.1 hst
      rw [hstate w hw] at heq
      cases heq
    gone := fun w hw => by
      have he := ht.engaged w hw
      rw [halts_of_forall_isOver hover] at he
      -- a worker that is not started has no loop that is alive
      have hexited : ∀ ph ∈ w.phases, ph = .exited := fun ph hph => by
        by_contra hne
        have hstarted := he.one.started ⟨ph, hph, hne⟩
        rw [hstate w hw] at hstarted
        cases hstarted
      exact ⟨Worker.loopIsOver_of_forall_exited hexited,
        Worker.callIsOver_of_forall_isOver (he.isOver_of_exited
          (Worker.phase_of_forall_exited hexited)
          (fun _ hi => by cases hi) fun _ hn => by cases hn)⟩ }

end ServiceSystem

end RemoteOps
