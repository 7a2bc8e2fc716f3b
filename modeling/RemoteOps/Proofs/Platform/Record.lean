/-
What becomes of a platform in memory, whatever calls are made of it, in
whatever order.

Operations are added at the end and keep their places and identifiers.
The first operation of an identifier is as the last write on record for
the identifier says, and every other operation is as it was added.  A
call that fails changes none of this.

* `MemoryPlatform.perform`, `MemoryPlatform.performAll`: calls, one after
  the other;
* `MemoryPlatform.Changes`: what a call does;
* `MemoryPlatform.Consistent`: how operations and record agree;
* `MemoryPlatform.consistent_of_calls`: they always do.
-/
import RemoteOps.Proofs.Platform.Memory

namespace RemoteOps

/-- A call of a platform in memory that may change it, by the world
outside or by the agent. -/
inductive MemoryCall where
  /-- Add an operation as it is. -/
  | push (o : Operation)
  /-- Issue a pending operation with one fragment. -/
  | issue (id kind : String) (payload : Json)
  /-- Set the installed software. -/
  | install (software : List InstalledSoftware)
  /-- Have some of the next polls fail. -/
  | failPolls (count : Nat)
  /-- Have some of the next writes fail. -/
  | failWrites (count : Nat)
  | failPublish (on : Bool)
  | failQueries (on : Bool)
  | poll
  | writeStatus (id : String) (status : Status) (reason : Option String)
  | update (o : Operation)
  | query (kind : String) (status : Status) (pageSize page : Nat)
  | publish (kinds : List String)

/-- The failure that an answer tells of. -/
def Failure.of? {α : Type} : Except Failure α → Option Failure
  | .ok _ => none
  | .error e => some e

/-- The last of some writes for an identifier. -/
def StatusWrite.last? (id : String) (ws : List StatusWrite) :
    Option StatusWrite :=
  (ws.filter fun w => w.id = id).getLast?

lemma StatusWrite.last?_append (id : String) (ws : List StatusWrite)
    (w : StatusWrite) :
    last? id (ws ++ [w]) = if w.id = id then some w else last? id ws := by
  rw [last?, last?, List.filter_append]
  by_cases h : w.id = id <;> simp [h]

namespace MemoryPlatform

variable {m m' : MemoryPlatform} {c : MemoryCall} {e? : Option Failure}

/-! ### Calls -/

/-- The failure of a call, if it fails, and the platform after it. -/
def perform (m : MemoryPlatform) :
    MemoryCall → Option Failure × MemoryPlatform
  | .push o => (none, m.push o)
  | .issue id kind payload => (none, m.issue id kind payload)
  | .install software => (none, { m with installedSoftware := software })
  | .failPolls count => (none, { m with failingPolls := count })
  | .failWrites count => (none, { m with failingWrites := count })
  | .failPublish on => (none, { m with failPublish := on })
  | .failQueries on => (none, { m with failQueries := on })
  | .poll => (Failure.of? m.poll.1, m.poll.2)
  | .writeStatus id status reason =>
    let r := m.writeStatus id status reason
    (Failure.of? r.1, r.2)
  | .update o => (Failure.of? (m.update o).1, (m.update o).2)
  | .query kind status pageSize page =>
    let r := m.query kind status pageSize page
    (Failure.of? r.1, r.2)
  | .publish kinds => (Failure.of? (m.publish kinds).1, (m.publish kinds).2)

/-- The platform after some calls. -/
def performAll (m : MemoryPlatform) (cs : List MemoryCall) :
    MemoryPlatform :=
  cs.foldl (fun m c => (m.perform c).2) m

lemma performAll_append (m : MemoryPlatform) (cs : List MemoryCall)
    (c : MemoryCall) :
    m.performAll (cs ++ [c]) = ((m.performAll cs).perform c).2 := by
  rw [performAll, List.foldl_append]
  rfl

/-- The operation that a call adds. -/
def added? : MemoryCall → Option Operation
  | .push o => some o
  | .issue id kind payload =>
    some ((Operation.new id).withFragment kind payload)
  | _ => none

/-- The write that a call makes if it does not fail. -/
def write? : MemoryCall → Option StatusWrite
  | .writeStatus id status reason => some ⟨id, status, reason⟩
  | .update o => some ⟨o.id, o.status, o.failureReason⟩
  | _ => none

/-- The write of a call that does not fail. -/
def accepted? (m : MemoryPlatform) (c : MemoryCall) : Option StatusWrite :=
  if (m.perform c).1 = none then write? c else none

/-- The writes of some calls that do not fail. -/
def accepted (m : MemoryPlatform) : List MemoryCall → List StatusWrite
  | [] => []
  | c :: cs => (m.accepted? c).toList ++ accepted (m.perform c).2 cs

lemma accepted_append (m : MemoryPlatform) (cs : List MemoryCall)
    (c : MemoryCall) :
    m.accepted (cs ++ [c])
      = m.accepted cs ++ ((m.performAll cs).accepted? c).toList := by
  induction cs generalizing m with
  | nil => simp [accepted, performAll]
  | cons c' cs ih =>
    rw [List.cons_append, accepted, ih, accepted, List.append_assoc]
    rfl

/-! ### What a call does -/

/-- At most a poll was counted, and one of the failures that were still to
come was used up. -/
structure Spares (m m' : MemoryPlatform) : Prop where
  rest : m' = { m with
    polls := m'.polls
    failingPolls := m'.failingPolls
    failingWrites := m'.failingWrites }
  polls : m'.polls = m.polls ∨ m'.polls = m.polls + 1
  failures : m'.failingPolls = m.failingPolls
        ∧ m'.failingWrites = m.failingWrites
    ∨ m'.failingPolls + 1 = m.failingPolls
        ∧ m'.failingWrites = m.failingWrites
    ∨ m'.failingPolls = m.failingPolls
        ∧ m'.failingWrites + 1 = m.failingWrites

lemma Spares.refl (m : MemoryPlatform) : Spares m m :=
  ⟨rfl, .inl rfl, .inl ⟨rfl, rfl⟩⟩

lemma Spares.operations_eq (h : Spares m m') :
    m'.operations = m.operations := by
  rw [h.rest]

lemma Spares.writes_eq (h : Spares m m') : m'.writes = m.writes := by
  rw [h.rest]

/-- A change of an operation that puts down what a write says. -/
def Makes (f : Operation → Operation) (w : StatusWrite) : Prop :=
  ∀ o, o.id = w.id → (f o).id = w.id ∧ (f o).status = w.status
    ∧ (f o).failureReason = w.reason

/-- What a call does to operations and record, by whether it fails. -/
inductive Changes (m : MemoryPlatform) :
    MemoryCall → Option Failure → MemoryPlatform → Prop where
  /-- It adds an operation. -/
  | adds {c : MemoryCall} {o : Operation} {m' : MemoryPlatform}
    (hc : added? c = some o) (hnone : write? c = none)
    (ho : m'.operations = m.operations ++ [o])
    (hw : m'.writes = m.writes) : Changes m c none m'
  /-- It reads or turns a switch. -/
  | keeps {c : MemoryCall} {m' : MemoryPlatform}
    (hc : added? c = none) (hnone : write? c = none)
    (ho : m'.operations = m.operations)
    (hw : m'.writes = m.writes) : Changes m c none m'
  /-- It writes to the first operation of an identifier, on record. -/
  | writes {c : MemoryCall} {w : StatusWrite} {f : Operation → Operation}
    {o : Operation} (hc : write? c = some w) (hnone : added? c = none)
    (hf : Makes f w) (hfound : m.operation? w.id = some o) :
    Changes m c none { m with
      operations := modifyFirst w.id f m.operations
      writes := m.writes ++ [w] }
  | fails {c : MemoryCall} {e : Failure} {m' : MemoryPlatform}
    (hc : added? c = none) (h : Spares m m') : Changes m c (some e) m'

/-- A write that fails uses up a failure, or finds no operation. -/
lemma spares_of_write_error {w : StatusWrite} {f : Operation → Operation}
    {e : Failure} (h : m.write w f = (.error e, m')) : Spares m m' := by
  rw [write] at h
  split at h
  · next hfail =>
    obtain rfl := (Prod.mk.inj h).2
    refine ⟨rfl, .inl rfl, .inr (.inr ⟨rfl, ?_⟩)⟩
    show m.failingWrites - 1 + 1 = m.failingWrites
    omega
  · split at h
    · obtain rfl := (Prod.mk.inj h).2
      exact .refl m
    · cases h

lemma changes_write {w : StatusWrite} {f : Operation → Operation}
    (hc : write? c = some w) (hnone : added? c = none)
    (hf : Makes f w) :
    Changes m c (Failure.of? (m.write w f).1) (m.write w f).2 := by
  cases hr : m.write w f with
  | mk r m' =>
    cases r with
    | ok u =>
      obtain ⟨o, ho⟩ := exists_of_write_ok hr
      rw [write_ok hr]
      exact .writes hc hnone hf ho
    | error e => exact .fails hnone (spares_of_write_error hr)

/-- A call does one of these things. -/
lemma perform_cases (m : MemoryPlatform) (c : MemoryCall) :
    Changes m c (m.perform c).1 (m.perform c).2 := by
  cases c with
  | push | issue => exact .adds rfl rfl rfl rfl
  | install | failPolls | failWrites | failPublish | failQueries =>
    exact .keeps rfl rfl rfl rfl
  | poll =>
    rw [perform, poll]
    dsimp only
    split
    · next hfail =>
      refine .fails rfl ⟨rfl, .inr rfl, .inr (.inl ⟨?_, rfl⟩)⟩
      show m.failingPolls - 1 + 1 = m.failingPolls
      omega
    · exact .keeps rfl rfl rfl rfl
  | writeStatus id status reason =>
    exact changes_write rfl rfl fun o ho => ⟨ho, rfl, rfl⟩
  | update o => exact changes_write rfl rfl fun _ _ => ⟨rfl, rfl, rfl⟩
  | query kind status pageSize page =>
    rw [perform, query]
    split
    · exact .fails rfl (.refl m)
    · exact .keeps rfl rfl rfl rfl
  | publish kinds =>
    rw [perform, publish]
    split
    · exact .fails rfl (.refl m)
    · exact .keeps rfl rfl rfl rfl

/-! ### How operations and record agree -/

/-- Operations and record agree with what was added and what was written:
an operation that is the first of its identifier is as the last write on
record for it says, if there is one, and every other is as it was added. -/
structure Consistent (added : List Operation) (accepted : List StatusWrite)
    (m : MemoryPlatform) : Prop where
  ids : m.operations.map (·.id) = added.map (·.id)
  writes : m.writes = accepted
  last : ∀ id w, StatusWrite.last? id m.writes = some w →
    ∃ o, m.operation? id = some o ∧ o.status = w.status
      ∧ o.failureReason = w.reason
  others : ∀ (i : Nat) (o : Operation), m.operations[i]? = some o →
    ((∀ w ∈ m.writes, w.id ≠ o.id)
      ∨ ∃ j < i, ∃ o' : Operation,
        m.operations[j]? = some o' ∧ o'.id = o.id) →
    added[i]? = some o

namespace Consistent

variable {added : List Operation} {accepted : List StatusWrite}

/-- An empty platform. -/
lemma empty : Consistent [] [] {} where
  ids := rfl
  writes := rfl
  last := by
    intro id w h
    simp [StatusWrite.last?] at h
  others := by
    intro i o h
    simp at h

/-- Only operations and record matter. -/
lemma congr (h : Consistent added accepted m)
    (ho : m'.operations = m.operations) (hw : m'.writes = m.writes) :
    Consistent added accepted m' where
  ids := by rw [ho, h.ids]
  writes := by rw [hw, h.writes]
  last := by simpa only [operation?, ho, hw] using h.last
  others := by simpa only [ho, hw] using h.others

/-- An operation that is added takes the next place and hides none. -/
lemma add (h : Consistent added accepted m) (o : Operation)
    (ho : m'.operations = m.operations ++ [o])
    (hw : m'.writes = m.writes) :
    Consistent (added ++ [o]) accepted m' where
  ids := by simp [ho, h.ids]
  writes := by rw [hw, h.writes]
  last := by
    intro id w hlast
    obtain ⟨a, ha, hs⟩ := h.last id w (hw ▸ hlast)
    refine ⟨a, ?_, hs⟩
    rw [operation?] at ha ⊢
    rw [ho, List.find?_append, ha]
    rfl
  others := by
    intro i a ha hother
    have hlen : m.operations.length = added.length := by
      simpa using congrArg List.length h.ids
    have hi : i < (m.operations ++ [o]).length :=
      (List.getElem?_eq_some_iff.1 (ho ▸ ha)).1
    rw [List.length_append, List.length_singleton] at hi
    rw [ho] at ha hother
    rcases Nat.lt_succ_iff_lt_or_eq.1 hi with hlt | rfl
    · rw [List.getElem?_append_left hlt] at ha
      rw [List.getElem?_append_left (hlen ▸ hlt)]
      refine h.others i a ha (hother.imp (fun hnone => hw ▸ hnone) ?_)
      rintro ⟨j, hj, a', ha', hid⟩
      rw [List.getElem?_append_left (by omega)] at ha'
      exact ⟨j, hj, a', ha', hid⟩
    · rw [List.getElem?_concat_length] at ha
      rw [hlen, List.getElem?_concat_length, ha]

/-- A write goes to the first operation of its identifier and is the last
one on record for it. -/
lemma write {w : StatusWrite} {f : Operation → Operation} {o : Operation}
    (h : Consistent added accepted m) (hf : Makes f w)
    (hfound : m.operation? w.id = some o) :
    Consistent added (accepted ++ [w]) { m with
      operations := modifyFirst w.id f m.operations
      writes := m.writes ++ [w] } where
  ids := (map_id_modifyFirst (fun a ha => (hf a ha).1) _).trans h.ids
  writes := by rw [h.writes]
  last := by
    intro id v hlast
    have hkeep : ∀ a, a.id = w.id → (f a).id = w.id := fun a ha =>
      (hf a ha).1
    rw [StatusWrite.last?_append] at hlast
    rw [operation?]
    split at hlast
    · next hid =>
      obtain rfl : w = v := by simpa using hlast
      obtain rfl : w.id = id := hid
      have ho : o.id = w.id := by simpa using List.find?_some hfound
      refine ⟨f o, ?_, (hf o ho).2⟩
      rw [find?_modifyFirst hkeep, ← operation?, hfound]
      rfl
    · next hid =>
      obtain ⟨a, ha, hs⟩ := h.last id v hlast
      refine ⟨a, ?_, hs⟩
      rw [find?_modifyFirst_of_ne hid hkeep]
      exact ha
  others := by
    intro i a ha hother
    have hids := map_id_modifyFirst (f := f) (fun a ha => (hf a ha).1)
      m.operations
    -- identifiers stay in their places
    have hplace : ∀ {j : Nat} {a : Operation},
        (modifyFirst w.id f m.operations)[j]? = some a →
        ∃ a₀, m.operations[j]? = some a₀ ∧ a₀.id = a.id := by
      intro j a ha
      have := congrArg (·[j]?) hids
      simpa [ha] using this.symm
    obtain ⟨a₀, ha₀, hid₀⟩ := hplace ha
    have hother₀ : (∀ v ∈ m.writes, v.id ≠ a₀.id)
        ∨ ∃ j < i, ∃ a' : Operation,
          m.operations[j]? = some a' ∧ a'.id = a₀.id := by
      rcases hother with hnone | ⟨j, hj, a', ha', hid⟩
      · refine .inl fun v hv => ?_
        rw [hid₀]
        exact hnone v (List.mem_append_left _ hv)
      · obtain ⟨b, hb, hbid⟩ := hplace ha'
        exact .inr ⟨j, hj, b, hb, by rw [hbid, hid, hid₀]⟩
    have hsame : (modifyFirst w.id f m.operations)[i]? = some a₀ := by
      by_cases hid : a₀.id = w.id
      · rcases hother with hnone | ⟨j, hj, a', ha', hid'⟩
        · refine absurd ?_ (hnone w (by simp))
          rw [← hid, hid₀]
        · obtain ⟨b, hb, hbid⟩ := hplace ha'
          have hbw : b.id = w.id := by rw [hbid, hid', ← hid₀, hid]
          rw [getElem?_modifyFirst_of_earlier hb hbw hj, ha₀]
      · exact getElem?_modifyFirst_of_ne ha₀ hid
    obtain rfl : a₀ = a := Option.some.inj (hsame.symm.trans ha)
    exact h.others i a₀ ha₀ hother₀

/-- A call keeps to it. -/
lemma perform (h : Consistent added accepted m) (c : MemoryCall) :
    Consistent (added ++ (added? c).toList)
      (accepted ++ (m.accepted? c).toList) (m.perform c).2 := by
  have hc := perform_cases m c
  rw [accepted?]
  generalize (m.perform c).1 = e? at hc ⊢
  generalize (m.perform c).2 = m' at hc ⊢
  cases hc with
  | adds hadd hnone ho hw =>
    simpa [hadd, hnone] using h.add _ ho hw
  | keeps hadd hnone ho hw =>
    simpa [hadd, hnone] using h.congr ho hw
  | writes hwrite hadd hf hfound =>
    simpa [hadd, hwrite] using h.write hf hfound
  | fails hadd hspares =>
    simpa [hadd] using h.congr hspares.operations_eq hspares.writes_eq

/-- So do all calls that are made of a platform that was empty. -/
lemma performAll (cs : List MemoryCall) :
    Consistent (cs.filterMap added?) (MemoryPlatform.accepted {} cs)
      (MemoryPlatform.performAll {} cs) := by
  induction cs using List.reverseRecOn with
  | nil => exact .empty
  | append_singleton cs c ih =>
    have hadd : [c].filterMap added? = (added? c).toList := by
      rw [List.filterMap_cons, List.filterMap_nil]
      cases added? c <;> rfl
    rw [performAll_append, accepted_append, List.filterMap_append, hadd]
    exact ih.perform c

end Consistent

/-- A call keeps the operations that there are in their places, under
their identifiers. -/
lemma ids_perform (m : MemoryPlatform) (c : MemoryCall) :
    m.operations.map (·.id)
      <+: (m.perform c).2.operations.map (·.id) := by
  have hc := perform_cases m c
  generalize (m.perform c).1 = e? at hc
  generalize (m.perform c).2 = m' at hc ⊢
  cases hc with
  | adds _ _ ho => rw [ho, List.map_append]; exact List.prefix_append _ _
  | keeps _ _ ho => simp [ho]
  | writes _ _ hf =>
    simp [map_id_modifyFirst fun o ho => (hf o ho).1]
  | fails _ hspares => simp [hspares.operations_eq]

lemma ids_performAll (m : MemoryPlatform) (cs : List MemoryCall) :
    m.operations.map (·.id)
      <+: (m.performAll cs).operations.map (·.id) := by
  induction cs using List.reverseRecOn with
  | nil => exact List.prefix_rfl
  | append_singleton cs c ih =>
    rw [performAll_append]
    exact ih.trans (ids_perform _ c)

/-- A call that fails changes at most the number of polls and one of the
numbers of failures that are still to come. -/
lemma spares_of_fails {e : Failure} (h : (m.perform c).1 = some e) :
    Spares m (m.perform c).2 := by
  have hc := perform_cases m c
  rw [h] at hc
  cases hc with
  | fails _ hspares => exact hspares

/-- Whatever calls are made of a platform that was empty, its operations
and its record agree; calls that are yet to come only add to the list of
identifiers; and one that fails spares operations, record, published kinds
and installed software. -/
theorem consistent_of_calls (cs : List MemoryCall) :
    Consistent (cs.filterMap added?) (accepted {} cs)
        (performAll {} cs)
      ∧ (∀ cs', (performAll {} cs).operations.map (·.id)
          <+: (performAll {} (cs ++ cs')).operations.map (·.id))
      ∧ ∀ c e, ((performAll {} cs).perform c).1 = some e →
          Spares (performAll {} cs) ((performAll {} cs).perform c).2 := by
  refine ⟨.performAll cs, fun cs' => ?_, fun c e => spares_of_fails⟩
  rw [performAll, performAll, List.foldl_append]
  exact ids_performAll _ cs'

end MemoryPlatform

end RemoteOps
