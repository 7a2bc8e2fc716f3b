/-
The writes that settle what an earlier run left executing, and what is
left to write when some of them were made.

* `MemoryPlatform.settlements`: these writes, in their order;
* `MemoryPlatform.settlements_eq`: they are the writes of both passes;
* `MemoryPlatform.settlements_afterWrites`: after the first of them, the
  others are the settlements that remain.
-/
import RemoteOps.Proofs.Service.Settling

namespace RemoteOps

namespace Pass

/-- An operation that was settled is taken by no pass any more. -/
lemma takes_settle_eq_false {reason : Operation → String}
    {installed : List InstalledSoftware} {o : Operation}
    (h : restarts.takes o = true
      ∨ (software.takes o && !o.hasFragment Kind.restart) = true)
    (pass : Pass) : pass.takes (o.settle reason installed) = false := by
  have hne : (o.settle reason installed).status ≠ .executing := by
    rcases h with hr | hs
    · rw [settle_of_restart hr]
      exact Status.noConfusion
    · obtain ⟨ht, hfrag⟩ := Bool.and_eq_true_iff.1 hs
      obtain ⟨he, hsoft⟩ := Bool.and_eq_true_iff.1 ht
      have hsoft' : o.hasFragment Kind.softwareList = true := hsoft
      rw [Operation.settle, if_neg (by simpa using he),
        if_neg (by simpa using hfrag), if_pos hsoft']
      split <;> exact Status.noConfusion
  simp [takes, hne]

end Pass

namespace Operation

/-- Settling changes status and reason only. -/
lemma afterWrite_record_settle (reason : Operation → String)
    (installed : List InstalledSoftware) (o : Operation) :
    o.afterWrite (o.settle reason installed).record
      = o.settle reason installed := by
  have hid : (o.settle reason installed).id = o.id := by
    unfold settle
    repeat' split
    all_goals rfl
  rw [afterWrite, record, if_pos hid]
  unfold settle
  repeat' split
  all_goals rfl

end Operation

namespace MemoryPlatform

variable (m : MemoryPlatform)

/-- The operations that an earlier run left executing, in the order in
which they are settled: the restarts first. -/
def leftExecuting : List Operation :=
  m.operations.filter Pass.restarts.takes
    ++ m.operations.filter fun o =>
      Pass.software.takes o && !o.hasFragment Kind.restart

/-- An operation of the platform, settled. -/
def settled (o : Operation) : Operation :=
  o.settle (Pass.updateReason m.installedSoftware) m.installedSoftware

/-- The writes that settle what an earlier run left executing. -/
def settlements : List StatusWrite :=
  m.leftExecuting.map fun o => (m.settled o).record

variable {m} {m' : MemoryPlatform}

/-- Operations and software alone matter. -/
lemma settlements_congr (ho : m'.operations = m.operations)
    (hi : m'.installedSoftware = m.installedSoftware) :
    m'.settlements = m.settlements := by
  simp only [settlements, leftExecuting, settled, ho, hi]

lemma afterPass_eq_settled (hd : (m.operations.map (·.id)).Nodup) :
    (m.afterPass .restarts).afterPass .software = { m with
      operations := m.operations.map m.settled
      writes := m.writes ++ m.settlements } := by
  rw [m.afterPass_afterPass hd, settlements, leftExecuting,
    List.map_append, List.append_assoc]
  rfl

/-- The settlements are the writes of both passes. -/
lemma settlements_eq (hd : (m.operations.map (·.id)).Nodup) :
    m.settlements
      = Pass.restarts.writes m.installedSoftware m.operations
        ++ Pass.software.writes m.installedSoftware
          (m.afterPass .restarts).operations := by
  have h := congrArg MemoryPlatform.writes (afterPass_eq_settled hd)
  have hw : ((m.afterPass .restarts).afterPass .software).writes
      = m.writes ++ Pass.restarts.writes m.installedSoftware m.operations
        ++ Pass.software.writes m.installedSoftware
          (m.afterPass .restarts).operations := rfl
  rw [hw, List.append_assoc] at h
  exact (List.append_cancel_left h).symm

/-- With all its settlements, a platform has all its operations
settled. -/
lemma afterWrites_settlements (hd : (m.operations.map (·.id)).Nodup) :
    m.afterWrites m.settlements = { m with
      operations := m.operations.map m.settled
      writes := m.writes ++ m.settlements } := by
  rw [← afterPass_eq_settled hd, settlements_eq hd, ← afterWrites_append]
  rfl

/-! ### When some settlements were made -/

lemma nodup_leftExecuting (hd : (m.operations.map (·.id)).Nodup) :
    (m.leftExecuting.map (·.id)).Nodup := by
  rw [leftExecuting, List.map_append, List.nodup_append]
  have hsub : ∀ p : Operation → Bool,
      ((m.operations.filter p).map (·.id)).Sublist
        (m.operations.map (·.id)) := fun p =>
    List.filter_sublist.map _
  refine ⟨hd.sublist (hsub _), hd.sublist (hsub _), ?_⟩
  -- a restart is settled by the first pass only
  intro id hr id' hs heq
  obtain ⟨o, ho, rfl⟩ := List.mem_map.1 hr
  obtain ⟨o', ho', rfl⟩ := List.mem_map.1 hs
  obtain ⟨hmem, ht⟩ := List.mem_filter.1 ho
  obtain ⟨hmem', ht'⟩ := List.mem_filter.1 ho'
  obtain rfl : o = o' := List.inj_on_of_nodup_map hd hmem hmem' heq
  have hfrag : o.hasFragment Kind.restart = true :=
    (Bool.and_eq_true_iff.1 ht).2
  simp [hfrag] at ht'

lemma mem_of_mem_leftExecuting {o : Operation} (h : o ∈ m.leftExecuting) :
    o ∈ m.operations ∧ (Pass.restarts.takes o = true
      ∨ (Pass.software.takes o && !o.hasFragment Kind.restart) = true) := by
  rcases List.mem_append.1 h with h | h
  · obtain ⟨hmem, ht⟩ := List.mem_filter.1 h
    exact ⟨hmem, .inl ht⟩
  · obtain ⟨hmem, ht⟩ := List.mem_filter.1 h
    exact ⟨hmem, .inr ht⟩

/-- After the first settlements, the operations that they are for are
settled and the others are as they were. -/
lemma after_take_settlements (hd : (m.operations.map (·.id)).Nodup) (n : Nat)
    {o : Operation} (ho : o ∈ m.operations) :
    o.after (m.settlements.take n)
      = if o ∈ m.leftExecuting.take n then m.settled o else o := by
  rw [settlements, ← List.map_take]
  have hid : ∀ a : Operation, (m.settled a).record.id = a.id := fun a => by
    rw [settled, ← Operation.afterWrite_record_settle]
    exact a.id_afterWrite _
  have hsub := List.take_sublist n m.leftExecuting
  by_cases hmem : o ∈ m.leftExecuting.take n
  · rw [if_pos hmem, Operation.after_map_of_mem hid
      ((nodup_leftExecuting hd).sublist (hsub.map _)) hmem]
    exact Operation.afterWrite_record_settle _ _ o
  · rw [if_neg hmem]
    refine Operation.after_of_forall_ne fun w hw heq => ?_
    obtain ⟨a, ha, rfl⟩ := List.mem_map.1 hw
    obtain rfl : a = o := List.inj_on_of_nodup_map hd
      (mem_of_mem_leftExecuting (hsub.subset ha)).1 ho ((hid a).symm.trans heq)
    exact hmem ha

/-- What is in a list without repetition but not among its first
elements. -/
lemma filter_not_mem_take {α : Type} [DecidableEq α] {l : List α}
    (h : l.Nodup) (n : Nat) :
    l.filter (· ∉ l.take n) = l.drop n := by
  have hdis := List.disjoint_take_drop h (Nat.le_refl n)
  calc l.filter (· ∉ l.take n)
    _ = (l.take n ++ l.drop n).filter (· ∉ l.take n) := by
      rw [List.take_append_drop]
    _ = [] ++ l.drop n := by
      rw [List.filter_append]
      congr 1
      · exact List.filter_eq_nil_iff.2 fun a ha => by simpa using ha
      · exact List.filter_eq_self.2 fun a ha => by
          simpa using fun ha' => hdis ha' ha
    _ = l.drop n := rfl

/-- After the first settlements, the other operations are left. -/
lemma leftExecuting_afterWrites (hd : (m.operations.map (·.id)).Nodup)
    (n : Nat) :
    (m.afterWrites (m.settlements.take n)).leftExecuting
      = m.leftExecuting.drop n := by
  set done := m.leftExecuting.take n with hdone
  have hafter : ∀ o ∈ m.operations, o.after (m.settlements.take n)
      = if o ∈ done then m.settled o else o := fun o ho =>
    after_take_settlements hd n ho
  -- a condition that no settled operation meets
  have hfilter : ∀ p : Operation → Bool,
      (∀ o ∈ done, p (m.settled o) = false) →
      (m.operations.map (·.after (m.settlements.take n))).filter p
        = (m.operations.filter p).filter (· ∉ done) := by
    intro p hp
    have hcond : ∀ o ∈ m.operations,
        p (o.after (m.settlements.take n))
          = (decide (o ∉ done) && p o) := by
      intro o ho
      rw [hafter o ho]
      by_cases hmem : o ∈ done
      · simp [hmem, hp o hmem]
      · simp [hmem]
    have hcond' : m.operations.filter
        (p ∘ (·.after (m.settlements.take n)))
        = (m.operations.filter p).filter (· ∉ done) := by
      rw [List.filter_filter]
      exact List.filter_congr hcond
    rw [List.filter_map, hcond']
    calc ((m.operations.filter p).filter (· ∉ done)).map
          (·.after (m.settlements.take n))
      _ = ((m.operations.filter p).filter (· ∉ done)).map id :=
        List.map_congr_left fun o ho => by
          obtain ⟨hmem, hnot⟩ := List.mem_filter.1 ho
          rw [hafter o (List.mem_filter.1 hmem).1,
            if_neg (of_decide_eq_true hnot), id]
      _ = _ := List.map_id _
  have htaken : ∀ o ∈ done, ∀ pass : Pass,
      pass.takes (m.settled o) = false := fun o ho =>
    Pass.takes_settle_eq_false (mem_of_mem_leftExecuting
      ((List.take_sublist n _).subset ho)).2
  have hnodup : m.leftExecuting.Nodup :=
    (nodup_leftExecuting hd).of_map
  calc (m.afterWrites (m.settlements.take n)).leftExecuting
    _ = m.leftExecuting.filter (· ∉ done) := by
      rw [leftExecuting, leftExecuting, List.filter_append]
      congr 1
      · exact hfilter _ fun o ho => htaken o ho .restarts
      · exact hfilter _ fun o ho => by simp [htaken o ho .software]
    _ = m.leftExecuting.drop n := filter_not_mem_take hnodup n

/-- After the first settlements, the others remain to be made. -/
theorem settlements_afterWrites (hd : (m.operations.map (·.id)).Nodup)
    {ws : List StatusWrite} (hws : ws <+: m.settlements) :
    ws ++ (m.afterWrites ws).settlements = m.settlements := by
  have htake : ws = m.settlements.take ws.length :=
    List.prefix_iff_eq_take.1 hws
  have hdrop : (m.afterWrites ws).settlements
      = m.settlements.drop ws.length := by
    show ((m.afterWrites ws).leftExecuting.map fun o =>
      (m.settled o).record) = _
    rw [htake, leftExecuting_afterWrites hd, ← htake, settlements,
      List.map_drop]
  calc ws ++ (m.afterWrites ws).settlements
    _ = m.settlements.take ws.length ++ m.settlements.drop ws.length := by
      rw [hdrop, ← htake]
    _ = m.settlements := List.take_append_drop _ _

end MemoryPlatform

end RemoteOps
