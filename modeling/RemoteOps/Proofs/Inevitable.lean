/-
What every run of a machine comes to.

A run may take the tasks in any order; still a condition may be bound to
hold in the end, since no run ends before it does and none goes on for
ever without it.

* `Machine.Inevitable`: a condition that every run comes to;
* `Machine.Inevitable.of_measure`: there is only so much work for the
  tasks, and somebody has something to do or wait for;
* `Machine.Inevitable.of_busy`: nobody has to wait.
-/
import RemoteOps.Proofs.Schedule

namespace RemoteOps

namespace Machine

variable {S T : Type} {m : Machine S T} {P I : S → Prop} {s s' : S}

/-- Whatever the tasks do, a condition comes to hold: no run ends before
it does, and none goes on for ever. -/
inductive Inevitable (m : Machine S T) (P : S → Prop) : S → Prop where
  | now {s : S} (h : P s) : Inevitable m P s
  | later {s : S} (hex : ∃ s', m.Step s s')
    (hall : ∀ s', m.Step s s' → Inevitable m P s') : Inevitable m P s

/-- What comes to hold gives another condition, with what every step
keeps. -/
lemma Inevitable.imp {Q : S → Prop} (h : m.Inevitable P s) (hI : I s)
    (hkeep : ∀ s s', I s → m.Step s s' → I s')
    (himp : ∀ s, I s → P s → Q s) : m.Inevitable Q s := by
  induction h with
  | now h => exact .now (himp _ hI h)
  | later hex _ ih =>
    exact .later hex fun s' hs => ih s' hs (hkeep _ s' hI hs)

/-- Where there is only one step, it may be taken first. -/
lemma Inevitable.of_only (hs : m.Only s s') (h : Inevitable m P s') :
    Inevitable m P s := .later ⟨s', hs.step⟩ fun t ht => hs.eq t ht ▸ h

lemma exists_run (h : ¬ m.Idle s) : ∃ s', m.Step s s' := by
  obtain ⟨t, ht⟩ := Classical.not_forall.1 h
  obtain ⟨s', hs'⟩ := Option.ne_none_iff_exists'.1 ht
  exact ⟨s', .run t hs'⟩

/-- The clock can move when no task can run and one sleeps. -/
lemma exists_wait {d : Nat} (hidle : m.Idle s) (hd : d ∈ m.wakes s)
    (hlt : m.now s < d) : ∃ s', m.Step s s' := by
  have hmem : d ∈ (m.wakes s).filter fun d => m.now s < d :=
    List.mem_filter.2 ⟨hd, decide_eq_true hlt⟩
  obtain ⟨d', hd'⟩ := Option.isSome_iff_exists.1 (List.isSome_min?_of_mem hmem)
  obtain ⟨hmem', hmin⟩ := List.min?_eq_some_iff.1 hd'
  rw [List.mem_filter, decide_eq_true_eq] at hmem'
  exact ⟨_, .wait hidle hmem'.1 hmem'.2 fun d'' h h' =>
    hmin d'' (List.mem_filter.2 ⟨h, decide_eq_true h'⟩)⟩

/-- While an invariant holds and a condition does not, there is somebody
who can go on or who wakes later on; whoever wakes can go on; and going on
leaves less to do.  Then the condition comes to hold. -/
theorem Inevitable.of_measure (μ : S → Nat)
    (hkeep : ∀ s s', I s → ¬ P s → m.Step s s' → I s')
    (hlive : ∀ s, I s → ¬ P s → m.Idle s → ∃ d ∈ m.wakes s, m.now s < d)
    (hwake : ∀ s, I s → ¬ P s → ∀ d ∈ m.wakes s, m.now s < d →
      ¬ m.Idle (m.setNow s d))
    (hless : ∀ s t s', I s → ¬ P s → m.step s t = some s' → μ s' < μ s)
    (hclock : ∀ s d, μ (m.setNow s d) = μ s) (h : I s) :
    Inevitable m P s := by
  classical
  -- a wait is followed by a step that leaves less to do
  induction hn : 2 * μ s + (if m.Idle s then 1 else 0)
    using Nat.strongRecOn generalizing s with
  | _ n ih =>
    by_cases hP : P s
    · exact .now hP
    refine .later ?_ fun s' hs => ?_
    · by_cases hidle : m.Idle s
      · obtain ⟨d, hd, hlt⟩ := hlive s h hP hidle
        exact exists_wait hidle hd hlt
      · exact exists_run hidle
    · refine ih _ ?_ (hkeep s s' h hP hs) rfl
      cases hs with
      | run t ht =>
        have := hless s t s' h hP ht
        have hidle : ¬ m.Idle s := fun hidle => by
          rw [hidle t] at ht
          cases ht
        rw [if_neg hidle] at hn
        split <;> omega
      | wait hidle hd hlt =>
        rw [if_pos hidle] at hn
        rw [hclock, if_neg (hwake s h hP _ hd hlt)]
        omega

/-- While an invariant holds and a condition does not, there is somebody
who can go on, and going on leaves less to do.  Then the condition comes
to hold. -/
theorem Inevitable.of_busy (μ : S → Nat)
    (hbusy : ∀ s, I s → ¬ P s → ¬ m.Idle s)
    (hstep : ∀ s s', I s → ¬ P s → m.Step s s' → I s' ∧ μ s' < μ s)
    (h : I s) : Inevitable m P s := by
  induction hn : μ s using Nat.strongRecOn generalizing s with
  | _ n ih =>
    by_cases hP : P s
    · exact .now hP
    refine .later (exists_run (hbusy s h hP)) fun s' hs => ?_
    obtain ⟨hI, hlt⟩ := hstep s s' h hP hs
    exact ih _ (hn ▸ hlt) hI rfl

end Machine

end RemoteOps
