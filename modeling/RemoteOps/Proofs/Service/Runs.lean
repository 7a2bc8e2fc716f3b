/-
What a step of a service and its callers leaves as it is, and who takes no
step when the clock moves.

* `ServiceSystem.step_callers`: a step of a task that is no caller leaves
  the callers alone;
* `ServiceSystem.answer?_of_runs`: an answer stays;
* `ServiceSystem.stepLoop_of_idle`, `ServiceSystem.stepTask_of_idle` and so
  on: each of the tasks of a service that is idle.
-/
import Mathlib.Tactic.Lemma
import RemoteOps.Service.System

namespace RemoteOps.ServiceSystem

variable {σ : Type} {p : Platform σ} {s s' : ServiceSystem σ} {i : Nat}
  {r : Except ServiceError Unit}

/-- Callers are moved by their own steps only. -/
lemma step_callers {t : ServiceTask} (hs : step p s t = some s') :
    s'.callers = s.callers
      ∨ ∃ k c c', t = .caller k ∧ s.callers[k]? = some c
        ∧ s.stepCall p c = some c' ∧ s'.service = c'.service
        ∧ s'.site = noteReturn c'.site k c'.call
        ∧ s'.callers = s.callers.set k c'.call := by
  cases t with
  | loop i | call i =>
    obtain ⟨w, -, hw⟩ := Option.bind_eq_some_iff.1 hs
    obtain ⟨a, -, ha⟩ := Option.bind_eq_some_iff.1 hw
    obtain rfl := Option.some.inj ha
    exact .inl rfl
  | stop group i =>
    obtain ⟨d, -, hd⟩ := Option.bind_eq_some_iff.1 hs
    obtain ⟨a, -, ha⟩ := Option.bind_eq_some_iff.1 hd
    obtain rfl := Option.some.inj ha
    exact .inl rfl
  | wait group =>
    obtain ⟨d, -, hd⟩ := Option.bind_eq_some_iff.1 hs
    obtain ⟨a, -, ha⟩ := Option.bind_eq_some_iff.1 hd
    obtain rfl := Option.some.inj ha
    exact .inl rfl
  | caller k =>
    obtain ⟨c, hc, hrest⟩ := Option.bind_eq_some_iff.1 hs
    obtain ⟨c', hc', hs'⟩ := Option.bind_eq_some_iff.1 hrest
    obtain rfl := Option.some.inj hs'
    exact .inr ⟨k, c, c', rfl, hc, hc', rfl, rfl, rfl⟩

lemma answer?_eq_some : s.answer? i = some r
    ↔ s.callers[i]? = some (.returned r) := by
  unfold answer?
  split
  · next r' h => simp [h]
  · next h =>
    simp only [reduceCtorEq, false_iff]
    exact h r

/-- An answer stays. -/
lemma answer?_of_step (hs : (machine p).Step s s')
    (h : s.answer? i = some r) : s'.answer? i = some r := by
  cases hs with
  | wait => exact h
  | run t ht =>
    rw [answer?_eq_some] at h ⊢
    rcases step_callers ht with heq | ⟨k, c, c', -, hc, hc', -, -, heq⟩
    · rw [heq, h]
    · rw [heq]
      by_cases hk : k = i
      · subst hk
        obtain rfl := Option.some.inj (hc.symm.trans h)
        cases hc'
      · rw [List.getElem?_set_ne hk, h]

/-- An answer stays. -/
lemma answer?_of_runs (hr : (machine p).Runs s s')
    (h : s.answer? i = some r) : s'.answer? i = some r := by
  induction hr with
  | refl => exact h
  | tail _ hs ih => exact answer?_of_step hs ih

/-- A further call leaves the answers as they are. -/
lemma answer?_join (c : CallState σ) (h : s.answer? i = some r) :
    (s.join c).answer? i = some r := by
  rw [answer?_eq_some] at h ⊢
  exact (List.getElem?_append_left (List.getElem?_eq_some_iff.1 h).1).trans h

/-- A call that returns at once. -/
lemma answer?_join_self (site : Site σ) (sv : Service) :
    (s.join ⟨site, sv, .returned r⟩).answer? s.callers.length = some r :=
  answer?_eq_some.2 List.getElem?_concat_length

/-! ### Idle services -/

section Idle

variable (hidle : (machine p).Idle s)

include hidle

lemma stepLoop_of_idle {w : Worker} (hw : s.service.worker = some w)
    (k : Nat) : Worker.stepLoop p s.site w k = none := by
  have hnone : step p s (.loop k) = none := hidle (.loop k)
  rw [step, stepWorker, hw] at hnone
  cases hs : Worker.stepLoop p s.site w k with
  | none => rfl
  | some r => simp [hs] at hnone

lemma stepCall_of_idle {w : Worker} (hw : s.service.worker = some w)
    (k : Nat) : Worker.stepCall p s.site w k = none := by
  have hnone : step p s (.call k) = none := hidle (.call k)
  rw [step, stepWorker, hw] at hnone
  cases hs : Worker.stepCall p s.site w k with
  | none => rfl
  | some r => simp [hs] at hnone

lemma stepTask_of_idle {d : Shutdown} (hd : d ∈ s.service.shutdowns)
    (k : Nat) : d.stepTask s.site k = none := by
  obtain ⟨group, hgroup⟩ := List.mem_iff_getElem?.1 hd
  have hnone : step p s (.stop group k) = none := hidle (.stop group k)
  rw [step, hgroup] at hnone
  cases hs : d.stepTask s.site k with
  | none => rfl
  | some r => simp [hs] at hnone

lemma stepWait_of_idle {d : Shutdown} (hd : d ∈ s.service.shutdowns) :
    d.stepWait s.site.now = none := by
  obtain ⟨group, hgroup⟩ := List.mem_iff_getElem?.1 hd
  have hnone : step p s (.wait group) = none := hidle (.wait group)
  rw [step, hgroup] at hnone
  cases hs : d.stepWait s.site.now with
  | none => rfl
  | some d' => simp [hs] at hnone

lemma stepCaller_of_idle {c : ServiceCall} (hc : c ∈ s.callers) :
    s.stepCall p c = none := by
  obtain ⟨k, hk⟩ := List.mem_iff_getElem?.1 hc
  have hnone : step p s (.caller k) = none := hidle (.caller k)
  rw [step, hk] at hnone
  cases hs : s.stepCall p c with
  | none => rfl
  | some c' => simp [hs] at hnone

end Idle

end RemoteOps.ServiceSystem
