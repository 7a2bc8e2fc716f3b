/-
The platform in memory as a record of writes: each of its operations is
what it was when it was issued, after the writes recorded since.

* `MemoryPlatform.modifyFirst_eq_map`: with distinct identifiers, a write
  changes the one operation of its identifier;
* `MemoryPlatform.getElem?_modifyFirst_of_earlier`: only the first
  operation of an identifier changes;
* `Operation.after_append`: writes are taken up in their order;
* `Operation.status_after`: the status of an operation is the last one
  that was written for it;
* `MemoryPlatform.write_ok`, `MemoryPlatform.write_error`: what a call
  that writes leaves behind;
* `MemoryPlatform.operations_writeStatus`: a write of a status makes of
  each operation what it is after that write.
-/
import Mathlib.Data.List.Induction
import Mathlib.Data.List.Nodup
import RemoteOps.Platform.Memory

namespace RemoteOps

/-! ### Operations after writes -/

namespace Operation

/-- An operation after a write, if the write is for it. -/
def afterWrite (o : Operation) (w : StatusWrite) : Operation :=
  if w.id = o.id then { o with status := w.status, failureReason := w.reason }
  else o

/-- An operation after some writes, of which the oldest comes first. -/
def after (o : Operation) (ws : List StatusWrite) : Operation :=
  ws.foldl afterWrite o

@[simp]
lemma id_afterWrite (o : Operation) (w : StatusWrite) :
    (o.afterWrite w).id = o.id := by
  unfold afterWrite
  split <;> rfl

@[simp]
lemma fragments_afterWrite (o : Operation) (w : StatusWrite) :
    (o.afterWrite w).fragments = o.fragments := by
  unfold afterWrite
  split <;> rfl

@[simp]
lemma after_nil (o : Operation) : o.after [] = o := rfl

/-- Writes are taken up in their order. -/
lemma after_append (o : Operation) (ws : List StatusWrite) (w : StatusWrite) :
    o.after (ws ++ [w]) = (o.after ws).afterWrite w := by
  rw [after, List.foldl_append]
  rfl

@[simp]
lemma id_after (o : Operation) (ws : List StatusWrite) :
    (o.after ws).id = o.id := by
  induction ws using List.reverseRecOn with
  | nil => rfl
  | append_singleton ws w ih => rw [after_append, id_afterWrite, ih]

@[simp]
lemma fragments_after (o : Operation) (ws : List StatusWrite) :
    (o.after ws).fragments = o.fragments := by
  induction ws using List.reverseRecOn with
  | nil => rfl
  | append_singleton ws w ih => rw [after_append, fragments_afterWrite, ih]

end Operation

/-! ### The statuses among writes -/

namespace StatusWrite

/-- The statuses that some writes give to an identifier. -/
def statuses (id : String) (ws : List StatusWrite) : List Status :=
  (ws.filter fun w => w.id = id).map (·.status)

@[simp]
lemma statuses_nil (id : String) : statuses id [] = [] := rfl

lemma statuses_append (id : String) (ws : List StatusWrite)
    (w : StatusWrite) :
    statuses id (ws ++ [w])
      = statuses id ws ++ if w.id = id then [w.status] else [] := by
  unfold statuses
  rw [List.filter_append, List.map_append]
  by_cases h : w.id = id <;> simp [h]

end StatusWrite

namespace Operation

open StatusWrite (statuses statuses_append)

/-- The status of an operation is the last one that was written for it. -/
lemma status_after (o : Operation) (ws : List StatusWrite) :
    (o.after ws).status = (statuses o.id ws).getLast?.getD o.status := by
  induction ws using List.reverseRecOn with
  | nil => rfl
  | append_singleton ws w ih =>
    rw [after_append, statuses_append, afterWrite, id_after]
    by_cases h : w.id = o.id
    · simp [h]
    · simp [h, ih]

/-- An operation that nothing was written for is as it was issued. -/
lemma after_of_statuses_eq_nil {o : Operation} {ws : List StatusWrite}
    (h : statuses o.id ws = []) : o.after ws = o := by
  induction ws using List.reverseRecOn with
  | nil => rfl
  | append_singleton ws w ih =>
    rw [statuses_append, List.append_eq_nil_iff] at h
    have hw : w.id ≠ o.id := by
      intro hw
      simp [hw] at h
    rw [after_append, ih h.1, afterWrite, if_neg hw]

end Operation

/-! ### Calls that write -/

namespace MemoryPlatform

/-- With distinct identifiers, a write changes the one operation of its
identifier. -/
lemma modifyFirst_eq_map {id : String} {f : Operation → Operation}
    {l : List Operation} (h : (l.map (·.id)).Nodup) :
    modifyFirst id f l = l.map fun o => if o.id = id then f o else o := by
  induction l with
  | nil => rfl
  | cons o l ih =>
    rw [List.map_cons, List.nodup_cons] at h
    rw [modifyFirst, List.map_cons]
    split
    · next ho =>
      have hl : ∀ o' ∈ l, o'.id ≠ id := fun o' ho' hid =>
        h.1 (ho ▸ hid ▸ List.mem_map_of_mem ho')
      congr 1
      calc l = l.map fun o => o := by simp
        _ = l.map fun o => if o.id = id then f o else o :=
          List.map_congr_left fun o' ho' => by rw [if_neg (hl o' ho')]
    · rw [ih h.2]

/-- A change of the first operation of an identifier is seen by who looks
for it. -/
lemma find?_modifyFirst {id : String} {f : Operation → Operation}
    (h : ∀ o, o.id = id → (f o).id = id) (l : List Operation) :
    (modifyFirst id f l).find? (fun o => o.id = id)
      = (l.find? fun o => o.id = id).map f := by
  induction l with
  | nil => rfl
  | cons o l ih =>
    rw [modifyFirst]
    split
    · next ho => simp [h o ho, ho]
    · next ho => simpa [ho] using ih

/-- Other identifiers find what they found before. -/
lemma find?_modifyFirst_of_ne {id id' : String} (hne : id ≠ id')
    {f : Operation → Operation} (h : ∀ o, o.id = id → (f o).id = id)
    (l : List Operation) :
    (modifyFirst id f l).find? (fun o => o.id = id')
      = l.find? fun o => o.id = id' := by
  induction l with
  | nil => rfl
  | cons o l ih =>
    rw [modifyFirst]
    split
    · next ho => simp [h o ho, ho, hne]
    · rw [List.find?_cons, List.find?_cons, ih]

/-- Operations of other identifiers are as they were. -/
lemma getElem?_modifyFirst_of_ne {id : String} {f : Operation → Operation}
    {l : List Operation} {i : Nat} {o : Operation} (hi : l[i]? = some o)
    (ho : o.id ≠ id) : (modifyFirst id f l)[i]? = some o := by
  induction l generalizing i with
  | nil => simp at hi
  | cons a l ih =>
    rw [modifyFirst]
    cases i with
    | zero =>
      obtain rfl : a = o := by simpa using hi
      rw [if_neg ho]
      rfl
    | succ i =>
      split
      · simpa using hi
      · simpa using ih (by simpa using hi)

/-- So is what comes after an operation of the identifier. -/
lemma getElem?_modifyFirst_of_earlier {id : String}
    {f : Operation → Operation} {l : List Operation} {i j : Nat}
    {o : Operation} (hj : l[j]? = some o) (ho : o.id = id) (hlt : j < i) :
    (modifyFirst id f l)[i]? = l[i]? := by
  induction l generalizing i j with
  | nil => rfl
  | cons a l ih =>
    obtain ⟨i, rfl⟩ : ∃ k, i = k + 1 := ⟨i - 1, by omega⟩
    rw [modifyFirst]
    split
    · rfl
    · next ha =>
      cases j with
      | zero =>
        obtain rfl : a = o := by simpa using hj
        exact absurd ho ha
      | succ j => simpa using ih (by simpa using hj) (by omega)

/-- A write that succeeds is recorded and made. -/
lemma write_ok {m m' : MemoryPlatform} {w : StatusWrite}
    {f : Operation → Operation} (h : m.write w f = (.ok (), m')) :
    m' = { m with
      operations := modifyFirst w.id f m.operations
      writes := m.writes ++ [w] } := by
  unfold write at h
  split at h
  · cases h
  · split at h
    · cases h
    · exact (Prod.ext_iff.1 h).2.symm

/-- Only an operation that the platform has is written. -/
lemma exists_of_write_ok {m m' : MemoryPlatform} {w : StatusWrite}
    {f : Operation → Operation} (h : m.write w f = (.ok (), m')) :
    ∃ o, m.operation? w.id = some o := by
  unfold write at h
  split at h
  · cases h
  · split at h
    · cases h
    · next hsome =>
      exact Option.ne_none_iff_exists'.1 (by simpa using hsome)

/-- A write that fails leaves operations and record alone. -/
lemma write_error {m m' : MemoryPlatform} {w : StatusWrite}
    {f : Operation → Operation} {e : Failure}
    (h : m.write w f = (.error e, m')) :
    m'.operations = m.operations ∧ m'.writes = m.writes := by
  unfold write at h
  split at h
  · cases h; exact ⟨rfl, rfl⟩
  · split at h
    · cases h; exact ⟨rfl, rfl⟩
    · cases h

/-- A write of a status makes of each operation what it is after that
write. -/
lemma operations_writeStatus {m m' : MemoryPlatform} {id : String}
    {status : Status} {reason : Option String}
    (hd : (m.operations.map (·.id)).Nodup)
    (h : m.writeStatus id status reason = (.ok (), m')) :
    m'.operations = m.operations.map (·.afterWrite ⟨id, status, reason⟩)
      ∧ m'.writes = m.writes ++ [⟨id, status, reason⟩] := by
  rw [write_ok h]
  refine ⟨?_, rfl⟩
  rw [modifyFirst_eq_map hd]
  refine List.map_congr_left fun o _ => ?_
  simp only [Operation.afterWrite, eq_comm (a := id)]

/-- With distinct identifiers, every operation is found by its own. -/
lemma operation?_eq_some {m : MemoryPlatform}
    (hd : (m.operations.map (·.id)).Nodup) {o : Operation}
    (ho : o ∈ m.operations) : m.operation? o.id = some o := by
  rw [operation?]
  cases hf : m.operations.find? (fun a => a.id = o.id) with
  | none =>
    have hne := List.find?_eq_none.1 hf o ho
    simp at hne
  | some a =>
    have hid : a.id = o.id := by simpa using List.find?_some hf
    rw [List.inj_on_of_nodup_map hd (List.mem_of_find?_eq_some hf) ho hid]

/-- A poll changes neither operations nor record. -/
lemma poll_keeps (m : MemoryPlatform) :
    m.poll.2.operations = m.operations ∧ m.poll.2.writes = m.writes := by
  unfold poll
  dsimp only
  split <;> exact ⟨rfl, rfl⟩

/-- What a poll hands out is an operation of the platform that is
pending. -/
lemma mem_of_poll {m : MemoryPlatform} {o : Operation}
    (h : m.poll.1 = .ok (some o)) :
    o ∈ m.operations ∧ o.status = .pending := by
  unfold poll at h
  dsimp only at h
  split at h
  · cases h
  · have hf := Except.ok.inj h
    exact ⟨List.mem_of_find?_eq_some hf, by simpa using List.find?_some hf⟩

lemma query_keeps (m : MemoryPlatform) (kind : String) (status : Status)
    (size page : Nat) : (m.query kind status size page).2 = m := by
  rw [query]
  split <;> rfl

/-- A write issues no operation. -/
lemma length_update (m : MemoryPlatform) (o : Operation) :
    (m.update o).2.operations.length = m.operations.length := by
  have hids : (modifyFirst o.id (fun _ => o) m.operations).map (·.id)
      = m.operations.map (·.id) := map_id_modifyFirst (fun _ _ => rfl) _
  have hlen := congrArg List.length hids
  rw [List.length_map, List.length_map] at hlen
  rw [update, write]
  split
  · rfl
  · split
    · rfl
    · exact hlen

/-- After a page that is not the last one, there is more to be found. -/
lemma lt_of_hasNext (m : MemoryPlatform) {kind : String} {status : Status}
    {size page : Nat} {batch : OperationPage}
    (h : (m.query kind status size page).1 = .ok batch)
    (hnext : batch.hasNext = true) :
    page * Nat.max size 1 + Nat.max size 1
      < (m.matching kind status).length := by
  rw [query] at h
  split at h
  · cases h
  · obtain rfl := Except.ok.inj h
    exact of_decide_eq_true hnext

end MemoryPlatform

end RemoteOps
