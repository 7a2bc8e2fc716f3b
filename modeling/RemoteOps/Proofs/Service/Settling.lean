/-
What settling comes to for a single operation and for a platform in
memory.

* `Pass.softwareFault?_eq`: an update has failed exactly if the software
  that it asks for first is not the only one that is installed;
* `Pass.after_writes`: the writes of a pass settle every operation that
  the pass takes and leave the others alone;
* `MemoryPlatform.afterPass_afterPass`: what both passes come to.
-/
import RemoteOps.Proofs.Platform.Memory
import RemoteOps.Service.Reconcile

namespace RemoteOps

/-! ### One operation -/

/-- Whether a single piece of software is installed, and is the one that
an update asks for first. -/
def isUpToDate (installed : List InstalledSoftware) (o : Operation) : Bool :=
  match (o.fragment? Kind.softwareList).map TypedOperation.decodeSoftware,
    installed with
  | some (.ok (wanted :: _)), [current] =>
    current.name = wanted.name && current.version = wanted.version
  | _, _ => false

namespace Operation

/-- An operation that has succeeded. -/
def succeeded (o : Operation) : Operation :=
  { o with status := .successful, failureReason := none }

/-- An operation that has failed for a reason. -/
def failedFor (o : Operation) (reason : String) : Operation :=
  { o with status := .failed, failureReason := some reason }

/-- An operation that an earlier run left behind, as it is after the
startup: a restart that is executing has succeeded; so has an update if
its software is installed, and otherwise it has failed for some reason;
any other operation is left alone. -/
def settle (reason : Operation → String)
    (installed : List InstalledSoftware) (o : Operation) : Operation :=
  if o.status ≠ .executing then o
  else if o.hasFragment Kind.restart then o.succeeded
  else if o.hasFragment Kind.softwareList then
    if isUpToDate installed o then o.succeeded else o.failedFor (reason o)
  else o

/-- What is recorded when an operation is written. -/
def record (o : Operation) : StatusWrite := ⟨o.id, o.status, o.failureReason⟩

end Operation

/-- The typed operation of an update. -/
lemma TypedOperation.ofOperation_softwareList {o : Operation} {a : Json}
    (h : o.fragment? Kind.softwareList = some a) :
    ofOperation o Kind.softwareList = (decodeSoftware a).map
      (softwareUpdate (.ofOperation o Kind.softwareList)) := by
  have hne : Kind.softwareList ≠ Kind.restart := by decide
  rw [ofOperation, h]
  simp only [Json.require, bind, Except.bind, if_neg hne, if_true]
  cases decodeSoftware a <;> rfl

namespace Pass

/-- Why an update has failed, if it has. -/
def updateReason (installed : List InstalledSoftware) (o : Operation) :
    String := (softwareFault? installed o).getD ""

/-- An update has failed exactly if the software that it asks for first
is not the only one that is installed. -/
lemma softwareFault?_eq {o : Operation}
    (h : o.hasFragment Kind.softwareList = true)
    (installed : List InstalledSoftware) :
    softwareFault? installed o = if isUpToDate installed o then none
      else some (updateReason installed o) := by
  obtain ⟨a, ha⟩ : ∃ a, o.fragment? Kind.softwareList = some a :=
    Option.isSome_iff_exists.1 h
  have hnone : softwareFault? installed o = none
      ↔ isUpToDate installed o = true := by
    rw [softwareFault?, isUpToDate.eq_def, ha, Option.map_some,
      TypedOperation.ofOperation_softwareList ha]
    cases TypedOperation.decodeSoftware a with
    | error e => simp [Except.map]
    | ok wanted =>
      rcases installed with _ | ⟨current, _ | ⟨second, rest⟩⟩
      · cases wanted <;> simp [Except.map]
      · cases wanted with
        | nil => simp [Except.map]
        | cons requested l => simp [Except.map, InstalledSoftware.isWanted]
      · cases wanted <;> simp [Except.map]
  by_cases hup : isUpToDate installed o = true
  · rw [if_pos hup, hnone.2 hup]
  · rw [if_neg hup, updateReason]
    cases hf : softwareFault? installed o with
    | none => exact absurd (hnone.1 hf) hup
    | some reason => rfl

/-- Whether a pass finds an operation. -/
def takes (pass : Pass) (o : Operation) : Bool :=
  o.status = .executing && o.hasFragment pass.kind

/-- An operation that a pass has settled. -/
def settled (pass : Pass) (installed : List InstalledSoftware)
    (o : Operation) : Operation :=
  { o with
    status := statusOf (pass.fault? installed o)
    failureReason := pass.fault? installed o }

lemma settled_restarts (installed : List InstalledSoftware)
    (o : Operation) : settled .restarts installed o = o.succeeded := rfl

lemma settled_software {o : Operation}
    (h : o.hasFragment Kind.softwareList = true)
    (installed : List InstalledSoftware) :
    settled .software installed o = if isUpToDate installed o
      then o.succeeded else o.failedFor (updateReason installed o) := by
  rw [settled, fault?, softwareFault?_eq h installed]
  split <;> rfl

/-- The writes of a pass over some operations. -/
def writes (pass : Pass) (installed : List InstalledSoftware)
    (l : List Operation) : List StatusWrite :=
  (l.filter pass.takes).map fun o => (pass.settled installed o).record

end Pass

/-! ### All operations -/

namespace Operation

/-- Writes to other operations do not matter. -/
lemma after_of_forall_ne {o : Operation} {ws : List StatusWrite}
    (h : ∀ w ∈ ws, w.id ≠ o.id) : o.after ws = o := by
  refine after_of_statuses_eq_nil ?_
  rw [StatusWrite.statuses, List.map_eq_nil_iff, List.filter_eq_nil_iff]
  exact fun w hw => by simpa using h w hw

/-- Of writes to distinct operations, one matters. -/
lemma after_map_of_mem {f : Operation → StatusWrite}
    (hf : ∀ o, (f o).id = o.id) {l : List Operation}
    (hd : (l.map (·.id)).Nodup) {o : Operation} (ho : o ∈ l) :
    o.after (l.map f) = o.afterWrite (f o) := by
  induction l with
  | nil => cases ho
  | cons a l ih =>
    rw [List.map_cons, List.nodup_cons] at hd
    have hstep : o.after (f a :: l.map f)
        = (o.afterWrite (f a)).after (l.map f) := rfl
    rw [List.map_cons, hstep]
    rcases List.mem_cons.1 ho with rfl | ho
    · refine after_of_forall_ne fun w hw => ?_
      obtain ⟨b, hb, rfl⟩ := List.mem_map.1 hw
      rw [hf, id_afterWrite]
      exact fun heq => hd.1 (heq ▸ List.mem_map_of_mem hb)
    · have hne : (f a).id ≠ o.id := by
        rw [hf]
        exact fun heq => hd.1 (heq ▸ List.mem_map_of_mem ho)
      rw [afterWrite, if_neg hne, ih hd.2 ho]

end Operation

namespace Pass

variable {reason : Operation → String}
  {installed : List InstalledSoftware} {o : Operation}

lemma settle_of_restart (h : restarts.takes o = true) :
    o.settle reason installed = o.succeeded := by
  obtain ⟨he, hr⟩ := Bool.and_eq_true_iff.1 h
  have hr' : o.hasFragment Kind.restart = true := hr
  rw [Operation.settle, if_neg (by simpa using he), if_pos hr']

lemma settle_of_update (h : software.takes o = true)
    (hr : o.hasFragment Kind.restart = false) :
    o.settle (updateReason installed) installed
      = software.settled installed o := by
  obtain ⟨he, hs⟩ := Bool.and_eq_true_iff.1 h
  have hs' : o.hasFragment Kind.softwareList = true := hs
  rw [Operation.settle, if_neg (by simpa using he), hr,
    if_neg Bool.false_ne_true, if_pos hs', settled_software hs']

lemma settle_of_not_takes (hr : restarts.takes o = false)
    (hs : software.takes o = false) : o.settle reason installed = o := by
  by_cases he : o.status = .executing
  · have hr' : o.hasFragment Kind.restart = false := by
      simpa [takes, he, kind] using hr
    have hs' : o.hasFragment Kind.softwareList = false := by
      simpa [takes, he, kind] using hs
    rw [Operation.settle, hr', hs']
    simp
  · rw [Operation.settle, if_pos he]

/-- The pass over the updates finds what the one over the restarts has
left. -/
lemma takes_software_ite (o : Operation) :
    software.takes (if restarts.takes o then o.succeeded else o)
      = (software.takes o && !o.hasFragment Kind.restart) := by
  by_cases hr : restarts.takes o = true
  · have hfrag : o.hasFragment Kind.restart = true :=
      (Bool.and_eq_true_iff.1 hr).2
    rw [if_pos hr, hfrag]
    simp [takes, Operation.succeeded]
  · rw [if_neg hr]
    by_cases he : o.status = .executing
    · have hfrag : o.hasFragment Kind.restart = false := by
        simpa [takes, he, kind] using hr
      rw [hfrag]
      simp
    · simp [takes, he]

/-- Both passes together settle an operation. -/
lemma settled_settled :
    (if software.takes (if restarts.takes o then o.succeeded else o)
      then software.settled installed
        (if restarts.takes o then o.succeeded else o)
      else if restarts.takes o then o.succeeded else o)
      = o.settle (updateReason installed) installed := by
  rw [takes_software_ite]
  by_cases hr : restarts.takes o = true
  · have hfrag : o.hasFragment Kind.restart = true :=
      (Bool.and_eq_true_iff.1 hr).2
    rw [settle_of_restart hr, if_pos hr, hfrag]
    simp
  · rw [Bool.not_eq_true] at hr
    rw [hr, if_neg Bool.false_ne_true]
    by_cases hs : software.takes o = true
    · have he := (Bool.and_eq_true_iff.1 hs).1
      have hfrag : o.hasFragment Kind.restart = false := by
        simpa [takes, of_decide_eq_true he, kind] using hr
      rw [hs, hfrag, settle_of_update hs hfrag]
      simp
    · rw [Bool.not_eq_true] at hs
      rw [hs, settle_of_not_takes hr hs]
      simp

variable (pass : Pass)

/-- The writes of a pass settle every operation that the pass takes and
leave the others alone. -/
theorem after_writes (installed : List InstalledSoftware)
    {l : List Operation} (hd : (l.map (·.id)).Nodup)
    (ho : o ∈ l) :
    o.after (pass.writes installed l)
      = if pass.takes o then pass.settled installed o else o := by
  have hsub : (l.filter pass.takes).Sublist l := List.filter_sublist
  by_cases ht : pass.takes o = true
  · have hmem : o ∈ l.filter pass.takes := List.mem_filter.2 ⟨ho, ht⟩
    rw [if_pos ht, writes, Operation.after_map_of_mem (fun _ => rfl)
      (hd.sublist (hsub.map _)) hmem, Operation.afterWrite]
    exact if_pos rfl
  · rw [if_neg ht]
    refine Operation.after_of_forall_ne fun w hw => ?_
    obtain ⟨a, ha, rfl⟩ := List.mem_map.1 hw
    intro hid
    obtain rfl : a = o :=
      List.inj_on_of_nodup_map hd (hsub.subset ha) ho hid
    exact ht (List.mem_filter.1 ha).2

end Pass

namespace MemoryPlatform

variable (m : MemoryPlatform)

/-- A platform after some more writes. -/
def afterWrites (ws : List StatusWrite) : MemoryPlatform :=
  { m with
    operations := m.operations.map (·.after ws)
    writes := m.writes ++ ws }

lemma afterWrites_nil : m.afterWrites [] = m := by
  simp [afterWrites]

lemma afterWrites_append (ws ws' : List StatusWrite) :
    (m.afterWrites ws).afterWrites ws' = m.afterWrites (ws ++ ws') := by
  simp [afterWrites, Operation.after, Function.comp_def]

/-- A platform after a pass. -/
def afterPass (pass : Pass) : MemoryPlatform :=
  m.afterWrites (pass.writes m.installedSoftware m.operations)

lemma operations_afterPass (hd : (m.operations.map (·.id)).Nodup)
    (pass : Pass) : (m.afterPass pass).operations
      = m.operations.map fun o =>
        if pass.takes o then pass.settled m.installedSoftware o else o :=
  List.map_congr_left fun _ ho => pass.after_writes _ hd ho

lemma nodup_afterWrites (hd : (m.operations.map (·.id)).Nodup)
    (ws : List StatusWrite) :
    ((m.afterWrites ws).operations.map (·.id)).Nodup := by
  rw [afterWrites, List.map_map,
    show ((·.id) ∘ (·.after ws) : Operation → String) = (·.id)
      from funext fun o => o.id_after ws]
  exact hd

/-- What both passes come to: every operation is settled, and recorded if
it was taken by one of them, the restarts first. -/
theorem afterPass_afterPass (hd : (m.operations.map (·.id)).Nodup) :
    let settle := Operation.settle
      (Pass.updateReason m.installedSoftware) m.installedSoftware
    (m.afterPass .restarts).afterPass .software = { m with
      operations := m.operations.map settle
      writes := m.writes
        ++ (m.operations.filter Pass.restarts.takes).map
          (fun o => (settle o).record)
        ++ (m.operations.filter fun o => Pass.software.takes o
          && !o.hasFragment Kind.restart).map
          (fun o => (settle o).record) } := by
  intro settle
  set f : Operation → Operation := fun o =>
    if Pass.restarts.takes o then o.succeeded else o with hf
  have hfirst : (m.afterPass .restarts).operations = m.operations.map f :=
    m.operations_afterPass hd .restarts
  have hrestarts : Pass.restarts.writes m.installedSoftware m.operations
      = (m.operations.filter Pass.restarts.takes).map
        fun o => (settle o).record :=
    List.map_congr_left fun o ho => by
      rw [Pass.settled_restarts,
        ← Pass.settle_of_restart (List.mem_filter.1 ho).2]
  have hupdates : Pass.software.writes m.installedSoftware
      (m.operations.map f)
      = (m.operations.filter fun o => Pass.software.takes o
        && !o.hasFragment Kind.restart).map
        fun o => (settle o).record := by
    have hfilter : m.operations.filter (Pass.software.takes ∘ f)
        = m.operations.filter fun o => Pass.software.takes o
          && !o.hasFragment Kind.restart :=
      List.filter_congr fun o _ => Pass.takes_software_ite o
    rw [Pass.writes, List.filter_map, List.map_map, hfilter]
    refine List.map_congr_left fun o ho => ?_
    obtain ⟨ht, hr⟩ := Bool.and_eq_true_iff.1 (List.mem_filter.1 ho).2
    have hr' : o.hasFragment Kind.restart = false := by simpa using hr
    have hfo : f o = o := by
      rw [hf]
      exact if_neg (by simp [Pass.takes, Pass.kind, hr'])
    rw [Function.comp_apply, hfo, ← Pass.settle_of_update ht hr']
  have hops : ((m.afterPass .restarts).afterPass .software).operations
      = m.operations.map settle := by
    have hd' : ((m.afterPass .restarts).operations.map (·.id)).Nodup :=
      m.nodup_afterWrites hd _
    rw [operations_afterPass _ hd' .software, hfirst, List.map_map]
    exact List.map_congr_left fun o _ => Pass.settled_settled
  have hwrites : ((m.afterPass .restarts).afterPass .software).writes
      = m.writes ++ Pass.restarts.writes m.installedSoftware m.operations
        ++ Pass.software.writes m.installedSoftware
          (m.afterPass .restarts).operations := rfl
  rw [hfirst, hrestarts, hupdates] at hwrites
  calc (m.afterPass .restarts).afterPass .software
    _ = { m with
          operations := ((m.afterPass .restarts).afterPass
            .software).operations
          writes := ((m.afterPass .restarts).afterPass .software).writes } :=
      rfl
    _ = _ := by rw [hops, hwrites]

end MemoryPlatform

end RemoteOps
