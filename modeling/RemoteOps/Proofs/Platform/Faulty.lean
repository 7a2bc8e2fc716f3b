/-
A platform in memory of which any call may fail at any time, before the
memory takes notice of it.

* `Faults.call_eq_ok`, `Faults.call_eq_error`: a call that succeeds is
  answered by the memory; one that fails was kept from it or was failed
  by it;
* `Journal.Smooth`, `Journal.Broken`: whether a call has failed since.
-/
import RemoteOps.Proofs.Platform.Hosted

namespace RemoteOps

/-- Surroundings of a platform in memory that keep calls from it.  Which
ones may depend on everything that happened before. -/
structure Faults (τ : Type) extends Host τ where
  /-- The failure of a call that does not get through. -/
  fault : MemoryPlatform × τ → Call → Option Failure
  /-- The surroundings after a call. -/
  next : MemoryPlatform × τ → Call → τ

namespace Faults

variable {τ : Type} (F : Faults τ)

/-- Makes a call of the memory, if it gets through. -/
def call {α : Type} (s : MemoryPlatform × τ) (c : Call)
    (f : MemoryPlatform → Except Failure α × MemoryPlatform) :
    Except Failure α × (MemoryPlatform × τ) :=
  match F.fault s c with
  | some e => (.error e, s.1, F.next s c)
  | none => ((f s.1).1, (f s.1).2, F.next s c)

/-- A platform in memory of which calls may fail. -/
def platform : Platform (MemoryPlatform × τ) where
  delay := F.delay
  poll s := F.call s .poll (·.poll)
  writeStatus s id status reason :=
    F.call s .status (·.writeStatus id status reason)
  query s kind status pageSize page :=
    F.call s .query (·.query kind status pageSize page)
  update s o := F.call s .update (·.update o)
  publish s kinds := F.call s .publish (·.publish kinds)
  installed s := F.call s .installed fun m => (.ok m.installedSoftware, m)
  execute s h t := ((F.execute s h t).1, s.1, (F.execute s h t).2)

variable {F} {α : Type} {s : MemoryPlatform × τ} {c : Call}
  {f : MemoryPlatform → Except Failure α × MemoryPlatform}

/-- A call that succeeds is answered by the memory. -/
lemma call_eq_ok {a : α} (h : (F.call s c f).1 = .ok a) :
    (f s.1).1 = .ok a ∧ (F.call s c f).2.1 = (f s.1).2 := by
  unfold call at h ⊢
  cases hf : F.fault s c with
  | some e =>
    rw [hf] at h
    cases h
  | none =>
    rw [hf] at h
    exact ⟨h, rfl⟩

/-- A call that fails was kept from the memory or was failed by it. -/
lemma call_eq_error {e : Failure} (h : (F.call s c f).1 = .error e) :
    (F.call s c f).2.1 = s.1
      ∨ (f s.1).1 = .error e ∧ (F.call s c f).2.1 = (f s.1).2 := by
  unfold call at h ⊢
  cases hf : F.fault s c with
  | some e' => exact .inl rfl
  | none =>
    rw [hf] at h
    exact .inr ⟨h, rfl⟩

end Faults

/-! ### Failures in the journal -/

/-- The failure that an event tells of. -/
def Event.failure? : Event → Option Failure
  | .poll (.error e) | .status _ _ _ (.error e)
  | .query _ _ _ _ (.error e) | .update _ (.error e)
  | .publish _ (.error e) | .installed (.error e) => some e
  | _ => none

namespace Journal

/-- No call has failed since. -/
def Smooth (j j' : Journal) : Prop :=
  ∃ new, j' = new ++ j ∧ ∀ e ∈ new, e.event.failure? = none

/-- Some call has failed since. -/
def Broken (j j' : Journal) : Prop :=
  ∃ new, j' = new ++ j ∧ ∃ e ∈ new, e.event.failure?.isSome = true

variable {j j' j'' : Journal}

lemma Smooth.refl (j : Journal) : Smooth j j :=
  ⟨[], rfl, fun _ h => by cases h⟩

lemma Smooth.cons (h : Smooth j j') {e : Entry}
    (he : e.event.failure? = none) : Smooth j (e :: j') := by
  obtain ⟨new, rfl, hnew⟩ := h
  refine ⟨e :: new, rfl, fun e' he' => ?_⟩
  rcases List.mem_cons.1 he' with rfl | he'
  · exact he
  · exact hnew e' he'

lemma Smooth.trans (h : Smooth j j') (h' : Smooth j' j'') :
    Smooth j j'' := by
  obtain ⟨new, rfl, hnew⟩ := h
  obtain ⟨new', rfl, hnew'⟩ := h'
  refine ⟨new' ++ new, (List.append_assoc ..).symm, fun e he => ?_⟩
  rcases List.mem_append.1 he with he | he
  · exact hnew' e he
  · exact hnew e he

/-- Nothing is left out of a journal. -/
lemma Smooth.broken (h : Smooth j j') (h' : Broken j' j'') :
    Broken j j'' := by
  obtain ⟨new, rfl, -⟩ := h
  obtain ⟨new', rfl, e, he, hf⟩ := h'
  exact ⟨new' ++ new, (List.append_assoc ..).symm, e,
    List.mem_append_left _ he, hf⟩

lemma Broken.cons (h : Broken j j') (e : Entry) : Broken j (e :: j') := by
  obtain ⟨new, rfl, e', he', hf⟩ := h
  exact ⟨e :: new, rfl, e', List.mem_cons_of_mem e he', hf⟩

lemma broken_cons {e : Entry} (he : e.event.failure?.isSome = true) :
    Broken j (e :: j) :=
  ⟨[e], rfl, e, List.mem_singleton_self e, he⟩

end Journal

end RemoteOps
