/-
Stretches of a run on which a machine has no choice.

* `Machine.Only`: the only step that a machine can take, since only one
  task can run, or none and only one time is waited for;
* `Machine.Leads`: every run from one state passes through another one,
  or goes on to it;
* `Machine.Walk`: runs of which the steps are counted.
-/
import Mathlib.Tactic.Lemma
import RemoteOps.Schedule

namespace RemoteOps.Machine

variable {S T : Type} {m : Machine S T} {s s' s'' : S}

/-- A run may begin with a step. -/
lemma Runs.head (hs : m.Step s s') (h : m.Runs s' s'') : m.Runs s s'' :=
  Runs.trans (.tail (.refl s) hs) h

/-- A run is empty or begins with a step. -/
lemma Runs.eq_or_step (h : m.Runs s s'') :
    s'' = s ∨ ∃ s', m.Step s s' ∧ m.Runs s' s'' := by
  induction h with
  | refl => exact .inl rfl
  | @tail u v _ hs ih =>
    refine .inr ?_
    rcases ih with rfl | ⟨s', hs', h'⟩
    · exact ⟨v, hs, .refl v⟩
    · exact ⟨s', hs', h'.tail hs⟩

/-- The only step that a machine can take. -/
structure Only (m : Machine S T) (s s' : S) : Prop where
  step : m.Step s s'
  eq : ∀ t, m.Step s t → t = s'

namespace Only

/-- The step of the only task that can run. -/
lemma of_run {t : T} (hs : m.step s t = some s')
    (honly : ∀ t', t' ≠ t → m.step s t' = none) : m.Only s s' := by
  refine ⟨.run t hs, fun u hu => ?_⟩
  cases hu with
  | run t' h =>
    by_cases ht : t' = t
    · subst ht
      exact Option.some.inj (h.symm.trans hs)
    · rw [honly t' ht] at h
      cases h
  | wait hidle =>
    rw [hidle t] at hs
    cases hs

/-- The clock moves when no task can run, to the only time at which one
wakes. -/
lemma of_wait {d : Nat} (hidle : m.Idle s) (hwakes : m.wakes s = [d])
    (hlt : m.now s < d) : m.Only s (m.setNow s d) := by
  have hmem : d ∈ m.wakes s := hwakes ▸ List.mem_singleton_self d
  refine ⟨.wait hidle hmem hlt fun d' hd' _ => ?_, fun u hu => ?_⟩
  · rw [hwakes, List.mem_singleton] at hd'
    exact Nat.le_of_eq hd'.symm
  · cases hu with
    | run t h =>
      rw [hidle t] at h
      cases h
    | wait _ hd' =>
      rw [hwakes, List.mem_singleton] at hd'
      rw [hd']

end Only

/-- Whatever the tasks do, a machine comes from one state to another one:
every run either passes through it or can go on to it. -/
structure Leads (m : Machine S T) (s s' : S) : Prop where
  runs : m.Runs s s'
  passes : ∀ t, m.Runs s t → m.Runs t s' ∨ m.Runs s' t

lemma Only.leads (h : m.Only s s') : m.Leads s s' := by
  refine ⟨.head h.step (.refl s'), fun t ht => ?_⟩
  rcases ht.eq_or_step with rfl | ⟨u, hu, hut⟩
  · exact .inl (.head h.step (.refl s'))
  · exact .inr (h.eq u hu ▸ hut)

namespace Leads

lemma refl (s : S) : m.Leads s s := ⟨.refl s, fun _ h => .inr h⟩

lemma trans (h : m.Leads s s') (h' : m.Leads s' s'') : m.Leads s s'' := by
  refine ⟨h.runs.trans h'.runs, fun t ht => ?_⟩
  rcases h.passes t ht with hb | ha
  · exact .inl (hb.trans h'.runs)
  · exact h'.passes t ha

end Leads

/-! ### Runs of a given length -/

/-- The states that a machine can come to in a number of steps. -/
inductive Walk (m : Machine S T) : Nat → S → S → Prop where
  | zero (s : S) : Walk m 0 s s
  | succ {n : Nat} {s s' s'' : S} (hs : m.Step s s') (h : Walk m n s' s'') :
    Walk m (n + 1) s s''

/-- Tasks may take their steps one after the other. -/
lemma walk_of_foldlM {ts : List T} (h : ts.foldlM m.step s = some s') :
    m.Walk ts.length s s' := by
  induction ts generalizing s with
  | nil =>
    obtain rfl := Option.some.inj h
    exact .zero s
  | cons t ts ih =>
    rw [List.foldlM_cons] at h
    obtain ⟨u, hu, hrest⟩ := Option.bind_eq_some_iff.1 h
    exact .succ (.run t hu) (ih hrest)

end RemoteOps.Machine
