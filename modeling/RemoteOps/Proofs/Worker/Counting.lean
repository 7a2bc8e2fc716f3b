/-
How often the operations of a platform in memory are counted.

An operation that a handler takes is claimed by the time that it is
counted, and will not be handed out again.  One that nobody takes is
counted before the write that fails it, and so each time it is handed
out: once more for every such write that the platform refuses, and for
every loop that is cut off before it.

* `PollLoop.isUnanswered`: a loop that may have handed out an operation
  without a write for it;
* `Audited`: the invariant, with `Audited.stepLoop`, `Audited.move`;
* `Counted`, `WorkerSystem.counted_of_reaches`: how often each operation
  is counted.
-/
import RemoteOps.Proofs.Worker.IssueOrder
import RemoteOps.Proofs.Worker.Tally

namespace RemoteOps

/-! ### Operations that were handed out -/

/-- A loop is about to fail an operation with an identifier. -/
def LoopPhase.rejects (id : String) : LoopPhase → Bool
  | .rejecting o _ => o.id = id
  | _ => false

/-- A loop may have been handed an operation with an identifier without
writing anything for it: it is about to fail it, or was cut off. -/
def PollLoop.isUnanswered (id : String) (l : PollLoop) : Bool :=
  l.phase.rejects id || l.isOver && l.aborted

lemma PollLoop.isUnanswered_of_not_aborted {l : PollLoop}
    (h : l.aborted = false) (id : String) :
    l.isUnanswered id = l.phase.rejects id := by
  rw [isUnanswered, h, Bool.and_false, Bool.or_false]

/-! ### What is counted of an operation -/

/-- An operation that can be converted is counted once, after the claim,
and not while its call goes on. -/
structure CountedOnce (j : Journal) (loops : List PollLoop)
    (id : String) : Prop where
  once : (j.tally.verdicts id).length ≤ 1
  claimed : j.tally.verdicts id ≠ [] → j.statuses id ≠ []
  closed : j.tally.verdicts id ≠ [] → ∀ l ∈ loops, ∀ o n,
    l.phase = .executing o n → o.id ≠ id

/-- One that cannot be converted is counted each time it is handed out,
and is handed out again only after a write that failed or a loop that was
cut off. -/
structure CountedEach (j : Journal) (loops : List PollLoop)
    (id : String) : Prop where
  unsupported : ∀ v ∈ j.tally.verdicts id, v = .unsupported
  each : (j.tally.verdicts id).length = j.handouts id
  bounded : j.handouts id ≤ j.failedWrites id + (j.statuses id).length
    + loops.countP (·.isUnanswered id)

section Counted

variable {j j' : Journal} {loops loops' : List PollLoop} {id : String}

lemma CountedOnce.goesOn (h : CountedOnce j loops id)
    (hv : j'.tally.verdicts id = j.tally.verdicts id)
    (hs : j.statuses id <+: j'.statuses id)
    (hx : ∀ l' ∈ loops', ∀ o n, l'.phase = .executing o n → o.id = id →
      j.statuses id = [] ∨ ∃ l ∈ loops, l.phase = .executing o n) :
    CountedOnce j' loops' id where
  once := hv ▸ h.once
  claimed hne hnil := by
    rw [hnil, List.prefix_nil] at hs
    exact h.claimed (hv ▸ hne) hs
  closed hne l' hl' o n hph hid := by
    rcases hx l' hl' o n hph hid with hnil | ⟨l, hl, hph⟩
    · exact h.claimed (hv ▸ hne) hnil
    · exact h.closed (hv ▸ hne) l hl o n hph hid

lemma CountedEach.goesOn (h : CountedEach j loops id)
    (hv : j'.tally.verdicts id = j.tally.verdicts id)
    (hh : j'.handouts id = j.handouts id)
    (hb : j.failedWrites id + (j.statuses id).length
        + loops.countP (·.isUnanswered id)
      ≤ j'.failedWrites id + (j'.statuses id).length
        + loops'.countP (·.isUnanswered id)) :
    CountedEach j' loops' id where
  unsupported := hv ▸ h.unsupported
  each := by rw [hv, hh, h.each]
  bounded := hh ▸ h.bounded.trans hb

end Counted

/-! ### The invariant -/

/-- How the counts hang together with the journal and the loops.  Here
`ops` are the operations that were issued. -/
structure Audited (table : HandlerTable) (ops : List Operation)
    (j : Journal) (loops : List PollLoop) : Prop where
  /-- The operation in hand is the one that was handed out last. -/
  handed : ∀ l ∈ loops, ∀ o, l.phase.inHand? = some o →
    j.tally.handed = some o.id
  counted : ∀ c ∈ j.tally.counted, ∃ o ∈ ops, c.1 = some o.id
  known : ∀ id, j.handouts id ≠ 0 → ∃ o ∈ ops, o.id = id
  once : ∀ o ∈ ops,
    (Matching.convert? o table.supportedKinds).isSome = true →
      CountedOnce j loops o.id
  each : ∀ o ∈ ops, Matching.convert? o table.supportedKinds = none →
    CountedEach j loops o.id

namespace Audited

variable {table : HandlerTable} {ops : List Operation} {j j' : Journal}
  {loops loops' : List PollLoop}

/-- Nothing is handed out and nothing is counted. -/
lemma goesOn (h : Audited table ops j loops) (ht : j'.tally = j.tally)
    (hh : ∀ id, j'.handouts id = j.handouts id)
    (hs : ∀ id, j.statuses id <+: j'.statuses id)
    (hb : ∀ id, j.failedWrites id + (j.statuses id).length
        + loops.countP (·.isUnanswered id)
      ≤ j'.failedWrites id + (j'.statuses id).length
        + loops'.countP (·.isUnanswered id))
    (hin : ∀ l' ∈ loops', ∀ o', l'.phase.inHand? = some o' →
      ∃ l ∈ loops, ∃ o, l.phase.inHand? = some o ∧ o.id = o'.id)
    (hx : ∀ l' ∈ loops', ∀ o n, l'.phase = .executing o n →
      j.statuses o.id = [] ∨ ∃ l ∈ loops, l.phase = .executing o n) :
    Audited table ops j' loops' where
  handed l' hl' o' ho' := by
    obtain ⟨l, hl, o, ho, hid⟩ := hin l' hl' o' ho'
    rw [ht, h.handed l hl o ho, hid]
  counted := ht ▸ h.counted
  known id hne := h.known id (hh id ▸ hne)
  once o ho hc := (h.once o ho hc).goesOn (by rw [ht]) (hs o.id)
    fun l' hl' o' n hph hid => hid ▸ hx l' hl' o' n hph
  each o ho hc := (h.each o ho hc).goesOn (by rw [ht]) (hh o.id) (hb o.id)

/-- A loop is started. -/
lemma start (h : Audited table ops j loops) {l : PollLoop}
    (hl : l.phase = .spawned) : Audited table ops j (loops ++ [l]) := by
  have hmem : ∀ l' ∈ loops ++ [l], l' ∈ loops ∨ l'.phase = .spawned :=
    fun l' hl' => (List.mem_append.1 hl').imp_right fun hl' => by
      rw [List.mem_singleton.1 hl', hl]
  refine h.goesOn rfl (fun _ => rfl) (fun _ => List.prefix_refl _)
    (fun id => ?_) (fun l' hl' o ho => ?_) fun l' hl' o n hx => ?_
  · rw [List.countP_append]
    omega
  · rcases hmem l' hl' with hl' | hph
    · exact ⟨l', hl', o, ho, rfl⟩
    · rw [hph] at ho
      cases ho
  · rcases hmem l' hl' with hl' | hph
    · exact .inr ⟨l', hl', hx⟩
    · rw [hph] at hx
      cases hx

/-- Nobody has been handed the operations that are issued next. -/
lemma push (h : Audited table ops j loops) {o : Operation}
    (hnew : ∀ o' ∈ ops, o'.id ≠ o.id) :
    Audited table (ops ++ [o]) j loops := by
  have hhandouts : j.handouts o.id = 0 := by
    by_contra hne
    obtain ⟨o', ho', hid⟩ := h.known o.id hne
    exact hnew o' ho' hid
  have hverdicts : j.tally.verdicts o.id = [] := by
    rw [Tally.verdicts, List.map_eq_nil_iff, List.filter_eq_nil_iff]
    intro c hc
    obtain ⟨o', ho', hid⟩ := h.counted c hc
    have hne : c.1 ≠ some o.id := fun heq =>
      hnew o' ho' (Option.some.inj (hid.symm.trans heq))
    simpa using hne
  refine {
    handed := h.handed
    counted := fun c hc => ?_
    known := fun id hne => ?_
    once := fun o' ho' hc => ?_
    each := fun o' ho' hc => ?_ }
  · obtain ⟨o', ho', hid⟩ := h.counted c hc
    exact ⟨o', List.mem_append_left _ ho', hid⟩
  · obtain ⟨o', ho', hid⟩ := h.known id hne
    exact ⟨o', List.mem_append_left _ ho', hid⟩
  · rcases List.mem_append.1 ho' with ho' | ho'
    · exact h.once o' ho' hc
    · obtain rfl := List.mem_singleton.1 ho'
      exact ⟨by simp [hverdicts], fun hne => absurd hverdicts hne,
        fun hne => absurd hverdicts hne⟩
  · rcases List.mem_append.1 ho' with ho' | ho'
    · exact h.each o' ho' hc
    · obtain rfl := List.mem_singleton.1 ho'
      exact ⟨by simp [hverdicts], by rw [hverdicts, hhandouts]; rfl,
        by rw [hhandouts]; exact Nat.zero_le _⟩

end Audited

/-! ### Steps of a loop -/

/-- While one loop goes on, all others have exited. -/
lemma EarlierExited.exited_of_mem_set {loops : List PollLoop} {i : Nat}
    {l l' l₁ : PollLoop} (h : EarlierExited (loops.map (·.phase)))
    (hl : loops[i]? = some l) (hne : l.phase ≠ .exited)
    (hl₁ : l₁ ∈ loops.set i l') : l₁ = l' ∨ l₁.phase = .exited := by
  obtain ⟨k, hk⟩ := List.mem_iff_getElem?.1 hl₁
  by_cases hki : i = k
  · subst hki
    obtain ⟨hlt, -⟩ := List.getElem?_eq_some_iff.1 hl
    rw [List.getElem?_set_self hlt, Option.some.injEq] at hk
    exact .inl hk.symm
  · rw [List.getElem?_set_ne hki] at hk
    have hi : (loops.map (·.phase))[i]? = some l.phase := by
      rw [List.getElem?_map, hl, Option.map_some]
    have hk' : (loops.map (·.phase))[k]? = some l₁.phase := by
      rw [List.getElem?_map, hk, Option.map_some]
    exact .inr (h.exited_of_ne hi hne hk' (Ne.symm hki))

namespace Audited

section Loop

variable {table : HandlerTable} {ops : List Operation} {j j' : Journal}
  {loops : List PollLoop} {i : Nat} {l l' : PollLoop} {new : List Event}
  (h : Audited table ops j loops) (hl : loops[i]? = some l)
  (hset : ∀ l₁ ∈ loops.set i l', l₁ = l' ∨ l₁.phase = .exited)

include h hl hset

/-- The loop goes on without being handed anything and without counting
anything.  If it was about to fail an operation, it has an answer. -/
lemma setLoop (hj : j.Extends new j') (ht : j'.tally = j.tally)
    (hnew : ∀ id, new.countP (Event.handsOut id) = 0)
    (hans : ∀ id, (l.isUnanswered id).toNat
      ≤ (l'.isUnanswered id).toNat + (new.countP (Event.failsToWrite id)
        + (StatusWrite.statuses id (new.filterMap Event.write?)).length))
    (hin : ∀ o', l'.phase.inHand? = some o' →
      ∃ o, l.phase.inHand? = some o ∧ o.id = o'.id)
    (hx : ∀ o n, l'.phase = .executing o n → j.statuses o.id = []) :
    Audited table ops j' (loops.set i l') := by
  refine h.goesOn ht (fun id => ?_) (fun id => ?_) (fun id => ?_)
    (fun l₁ hl₁ o' ho' => ?_) (fun l₁ hl₁ o n hph => ?_)
  · rw [hj.handouts, hnew, Nat.add_zero]
  · exact ⟨_, (hj.statuses id).symm⟩
  · have hcount := countP_set_add l' (·.isUnanswered id) hl
    have := hans id
    rw [hj.failedWrites, hj.statuses, List.length_append]
    omega
  · rcases hset l₁ hl₁ with rfl | hex
    · obtain ⟨o, ho, hid⟩ := hin o' ho'
      exact ⟨l, List.mem_of_getElem? hl, o, ho, hid⟩
    · rw [hex] at ho'
      cases ho'
  · rcases hset l₁ hl₁ with rfl | hex
    · exact .inl (hx o n hph)
    · rw [hex] at hph
      cases hph

omit h hl in
/-- The loop holds the operation that was handed out last. -/
lemma handed_setLoop {id : String} (ht : j'.tally.handed = some id)
    (hin : ∀ o, l'.phase.inHand? = some o → o.id = id) :
    ∀ l₁ ∈ loops.set i l', ∀ o, l₁.phase.inHand? = some o →
      j'.tally.handed = some o.id := by
  intro l₁ hl₁ o ho
  rcases hset l₁ hl₁ with rfl | hex
  · rw [ht, hin o ho]
  · rw [hex] at ho
    cases ho

omit hl in
/-- What is not counted now and can be converted. -/
lemma once_setLoop {o : Operation} (ho : o ∈ ops)
    (hc : (Matching.convert? o table.supportedKinds).isSome = true)
    (hj : j.Extends new j')
    (hv : j'.tally.verdicts o.id = j.tally.verdicts o.id)
    (hx : ∀ o n, l'.phase ≠ .executing o n) :
    CountedOnce j' (loops.set i l') o.id := by
  refine (h.once o ho hc).goesOn hv ⟨_, (hj.statuses o.id).symm⟩
    fun l₁ hl₁ o₁ n hph _ => ?_
  rcases hset l₁ hl₁ with rfl | hex
  · exact absurd hph (hx o₁ n)
  · rw [hex] at hph
    cases hph

omit hset in
/-- What is not counted now and cannot be converted. -/
lemma each_setLoop {o : Operation} (ho : o ∈ ops)
    (hc : Matching.convert? o table.supportedKinds = none)
    (hj : j.Extends new j')
    (hv : j'.tally.verdicts o.id = j.tally.verdicts o.id)
    (hh : new.countP (Event.handsOut o.id) = 0)
    (hans : l.isUnanswered o.id = false) :
    CountedEach j' (loops.set i l') o.id := by
  have hcount := countP_set_add l' (·.isUnanswered o.id) hl
  rw [hans, Bool.toNat_false] at hcount
  refine (h.each o ho hc).goesOn hv ?_ ?_
  · rw [hj.handouts, hh, Nat.add_zero]
  · rw [hj.failedWrites, hj.statuses, List.length_append]
    omega

/-- The loop is handed an operation that can be converted. -/
lemma accept {o : Operation} (hd : (ops.map (·.id)).Nodup) (ho : o ∈ ops)
    (hc : (Matching.convert? o table.supportedKinds).isSome = true)
    (hj : j.Extends [.poll (.ok (some o))] j')
    (ht : j'.tally = j.tally.enter (.poll (.ok (some o))))
    (hin : ∀ o', l'.phase.inHand? = some o' → o'.id = o.id)
    (hx : ∀ o n, l'.phase ≠ .executing o n)
    (hans : ∀ id, l.isUnanswered id = false) :
    Audited table ops j' (loops.set i l') where
  handed := handed_setLoop hset (by rw [ht]; rfl) hin
  counted := by rw [ht]; exact h.counted
  known id hne := by
    by_cases hid : o.id = id
    · exact ⟨o, ho, hid⟩
    · refine h.known id fun hz => hne ?_
      rw [hj.handouts, hz]
      simp [Event.handsOut, hid]
  once o' ho' hc' :=
    h.once_setLoop hset ho' hc' hj (by rw [ht]; rfl) hx
  each o' ho' hc' := by
    have hid : o.id ≠ o'.id := fun hid => by
      obtain rfl := List.inj_on_of_nodup_map hd ho ho' hid
      rw [hc'] at hc
      cases hc
    exact h.each_setLoop hl ho' hc' hj (by rw [ht]; rfl)
      (by simp [Event.handsOut, hid]) (hans _)

/-- The loop is handed one that cannot be converted, and counts it. -/
lemma reject {o : Operation} (hd : (ops.map (·.id)).Nodup) (ho : o ∈ ops)
    (hc : Matching.convert? o table.supportedKinds = none)
    (hj : j.Extends [.poll (.ok (some o))] j')
    (ht : j'.tally = (j.tally.enter (.poll (.ok (some o)))).enter
      (.counted (.operations .unsupported)))
    (hin : ∀ o', l'.phase.inHand? = some o' → o'.id = o.id)
    (hx : ∀ o n, l'.phase ≠ .executing o n)
    (hans : ∀ id, l.isUnanswered id = false)
    (hans' : l'.isUnanswered o.id = true) :
    Audited table ops j' (loops.set i l') := by
  have hv : ∀ id, j'.tally.verdicts id
      = j.tally.verdicts id ++ if o.id = id then [.unsupported] else [] := by
    intro id
    rw [ht, Tally.verdicts_enter]
    simp only [Tally.enter, Option.some.injEq]
    rfl
  have hh : ∀ id, j'.handouts id
      = j.handouts id + if o.id = id then 1 else 0 := fun id => by
    rw [hj.handouts]
    simp [Event.handsOut]
  refine {
    handed := handed_setLoop hset (by rw [ht]; rfl) hin
    counted := fun c hc' => ?_
    known := fun id hne => ?_
    once := fun o' ho' hc' => ?_
    each := fun o' ho' hc' => ?_ }
  · rw [ht] at hc'
    rcases List.mem_append.1 hc' with hc' | hc'
    · exact h.counted c hc'
    · exact ⟨o, ho, by rw [List.mem_singleton.1 hc']; rfl⟩
  · by_cases hid : o.id = id
    · exact ⟨o, ho, hid⟩
    · exact h.known id fun hz => hne (by rw [hh, hz, if_neg hid])
  · have hid : o.id ≠ o'.id := fun hid => by
      obtain rfl := List.inj_on_of_nodup_map hd ho ho' hid
      rw [hc] at hc'
      cases hc'
    exact h.once_setLoop hset ho' hc' hj
      (by rw [hv, if_neg hid, List.append_nil]) hx
  · by_cases hid : o.id = o'.id
    · obtain rfl := List.inj_on_of_nodup_map hd ho ho' hid
      have heach := h.each o ho hc
      have hvo := hv o.id
      have hho := hh o.id
      rw [if_pos rfl] at hvo hho
      refine ⟨fun v hv' => ?_, ?_, ?_⟩
      · rw [hvo, List.mem_append, List.mem_singleton] at hv'
        exact hv'.elim (heach.unsupported v) id
      · rw [hvo, hho, List.length_append, heach.each]
        rfl
      · have hbound := heach.bounded
        have hcount := countP_set_add l' (·.isUnanswered o.id) hl
        rw [hans, hans', Bool.toNat_false, Bool.toNat_true] at hcount
        rw [hho, hj.failedWrites, hj.statuses, List.length_append]
        omega
    · exact h.each_setLoop hl ho' hc' hj
        (by rw [hv, if_neg hid, List.append_nil])
        (by simp [Event.handsOut, hid]) (hans _)

/-- The loop counts the operation in hand, whose call is over. -/
lemma conclude {o : Operation} {n : Nat} {v : Verdict}
    (hph : l.phase = .executing o n) (hd : (ops.map (·.id)).Nodup)
    (ho : ∃ o₀ ∈ ops, o₀.id = o.id
      ∧ (Matching.convert? o₀ table.supportedKinds).isSome = true)
    (hst : j.statuses o.id ≠ []) (hj : j.Extends [] j')
    (ht : j'.tally = j.tally.enter (.counted (.operations v)))
    (hin : ∀ o', l'.phase.inHand? = some o' → o'.id = o.id)
    (hx : ∀ o n, l'.phase ≠ .executing o n)
    (hans : ∀ id, l.isUnanswered id = false) :
    Audited table ops j' (loops.set i l') := by
  obtain ⟨o₀, ho₀, hid₀, hc₀⟩ := ho
  have hmem := List.mem_of_getElem? hl
  have hhanded : j.tally.handed = some o.id :=
    h.handed l hmem o (by rw [hph]; rfl)
  have hs : ∀ id, j'.statuses id = j.statuses id := fun id =>
    (hj.statuses id).trans (List.append_nil _)
  have hv : ∀ id, j'.tally.verdicts id
      = j.tally.verdicts id ++ if o.id = id then [v] else [] := by
    intro id
    rw [ht, Tally.verdicts_enter, hhanded]
    simp only [Option.some.injEq]
  refine {
    handed := handed_setLoop hset (by rw [ht]; exact hhanded) hin
    counted := fun c hc => ?_
    known := fun id hne => h.known id fun hz => hne ?_
    once := fun o' ho' hc' => ?_
    each := fun o' ho' hc' => ?_ }
  · rw [ht] at hc
    rcases List.mem_append.1 hc with hc | hc
    · exact h.counted c hc
    · refine ⟨o₀, ho₀, ?_⟩
      rw [List.mem_singleton.1 hc, hid₀]
      exact hhanded
  · rw [hj.handouts, hz]
    rfl
  · by_cases hid : o.id = o'.id
    · -- it has not been counted, as its call was going on
      have hnil : j.tally.verdicts o'.id = [] := by
        by_contra hne
        exact (h.once o' ho' hc').closed hne l hmem o n hph hid
      have hvo := hv o'.id
      rw [if_pos hid, hnil, List.nil_append] at hvo
      refine ⟨by rw [hvo]; rfl, fun _ => ?_, fun _ l₁ hl₁ o₁ n₁ hph₁ => ?_⟩
      · rw [hs, ← hid]
        exact hst
      · rcases hset l₁ hl₁ with rfl | hex
        · exact absurd hph₁ (hx o₁ n₁)
        · rw [hex] at hph₁
          cases hph₁
    · exact h.once_setLoop hset ho' hc' hj
        (by rw [hv, if_neg hid, List.append_nil]) hx
  · have hid : o.id ≠ o'.id := fun hid => by
      obtain rfl := List.inj_on_of_nodup_map hd ho₀ ho' (hid₀.trans hid)
      rw [hc'] at hc₀
      cases hc₀
    exact h.each_setLoop hl ho' hc' hj
      (by rw [hv, if_neg hid, List.append_nil]) rfl (hans _)

end Loop

variable {τ : Type} {H : Host τ} {table : HandlerTable}
  {base : List StatusWrite} {ops : List Operation}
  {s s' : Site (MemoryPlatform × τ)} {w w' : Worker} {i : Nat}

/-- A loop that is not to be cut off takes a step: what it asks for and
what is tallied meanwhile. -/
structure LoopTurn (table : HandlerTable) (base : List StatusWrite)
    (ops : List Operation) (s : Site (MemoryPlatform × τ)) (j' : Journal)
    (w : Worker) (i : Nat) (l l' : PollLoop) (new tallied : List Event) :
    Prop where
  audited : Audited table ops s.journal w.loops
  tracked : Tracked table base ops s w
  loop : w.loops[i]? = some l
  /-- It is the only loop that is alive. -/
  alone : ∀ l₁ ∈ w.loops.set i l', l₁ = l' ∨ l₁.phase = .exited
  kept : l.aborted = false
  kept' : l'.aborted = false
  grows : s.journal.Extends new j'
  tally : j'.tally = tallied.foldl Tally.enter s.journal.tally

namespace LoopTurn

variable {j' : Journal} {l l' : PollLoop} {new tallied : List Event}
  {o o' : Operation} {due n : Nat}

lemma holds (h : LoopTurn table base ops s j' w i l l' new tallied) :
    Holds table ops s.journal w.cores l.phase :=
  h.tracked.2.holds _ (List.mem_map_of_mem (List.mem_of_getElem? h.loop))

/-- A loop that holds nothing answers what it has rejected. -/
lemma isUnanswered_eq_false
    (h : LoopTurn table base ops s j' w i l l' new tallied)
    (hno : ∀ id, l.phase.rejects id = false) (id : String) :
    l.isUnanswered id = false :=
  (PollLoop.isUnanswered_of_not_aborted h.kept id).trans (hno id)

/-- After most moves the loop holds nothing. -/
lemma of_isFree (h : LoopTurn table base ops s j' w i l l' new [])
    (hfree : l'.phase.IsFree)
    (hnew : ∀ id, new.countP (Event.handsOut id) = 0)
    (hans : ∀ id, (l.phase.rejects id).toNat
      ≤ new.countP (Event.failsToWrite id)
        + (StatusWrite.statuses id (new.filterMap Event.write?)).length) :
    Audited table ops j' (w.loops.set i l') := by
  refine h.audited.setLoop h.loop h.alone h.grows h.tally hnew
    (fun id => ?_) (fun o' ho' => ?_) fun o n hx => ?_
  · rw [PollLoop.isUnanswered_of_not_aborted h.kept]
    exact (hans id).trans (Nat.le_add_left _ _)
  · rw [LoopPhase.inHand?_of_isFree hfree] at ho'
    cases ho'
  · rw [hx] at hfree
    exact hfree.elim

/-- It has told what it could not accept. -/
lemma rejected {r : Except Failure Unit}
    (h : LoopTurn table base ops s j' w i l l'
      [.status o.id o.status o.failureReason r] [])
    (hph : l.phase = .rejecting o due) (hfree : l'.phase.IsFree) :
    Audited table ops j' (w.loops.set i l') := by
  refine h.of_isFree hfree (fun _ => rfl) fun id => ?_
  rw [hph]
  by_cases hid : o.id = id
  · cases r <;> simp [LoopPhase.rejects, Event.failsToWrite, Event.write?,
      StatusWrite.statuses, hid]
  · simp [LoopPhase.rejects, hid]

/-- It is handed an operation that it does not accept. -/
lemma reject (h : LoopTurn table base ops s j' w i l l'
      [.poll (.ok (some o))]
      [.poll (.ok (some o)), .counted (.operations .unsupported)])
    (hno : ∀ id, l.phase.rejects id = false)
    (hph' : l'.phase = .rejecting o' due) (hid' : o'.id = o.id)
    (ho : o ∈ ops)
    (hc : Matching.convert? o table.supportedKinds = none) :
    Audited table ops j' (w.loops.set i l') := by
  refine h.audited.reject h.loop h.alone h.tracked.2.distinct ho hc
    h.grows h.tally (fun o₁ ho₁ => ?_) (fun o n => ?_)
    (h.isUnanswered_eq_false hno) ?_
  · rw [hph'] at ho₁
    obtain rfl := Option.some.inj ho₁
    exact hid'
  · rw [hph']
    exact LoopPhase.noConfusion
  · rw [PollLoop.isUnanswered_of_not_aborted h.kept', hph']
    exact decide_eq_true hid'

/-- It is handed an operation that it accepts. -/
lemma accept {t : TypedOperation} {hd : Handler}
    (h : LoopTurn table base ops s j' w i l l' [.poll (.ok (some o))]
      [.poll (.ok (some o))])
    (hno : ∀ id, l.phase.rejects id = false)
    (hph' : l'.phase = .claiming o' t hd due) (hid' : o'.id = o.id)
    (ho : o ∈ ops)
    (hc : (Matching.convert? o table.supportedKinds).isSome = true) :
    Audited table ops j' (w.loops.set i l') := by
  refine h.audited.accept h.loop h.alone h.tracked.2.distinct ho hc
    h.grows h.tally (fun o₁ ho₁ => ?_) (fun o n => ?_)
    (h.isUnanswered_eq_false hno)
  · rw [hph'] at ho₁
    obtain rfl := Option.some.inj ho₁
    exact hid'
  · rw [hph']
    exact LoopPhase.noConfusion

/-- It calls the handler of the operation that it has claimed. -/
lemma claimed {t : TypedOperation} {hd : Handler}
    {r : Except Failure Unit}
    (h : LoopTurn table base ops s j' w i l l'
      [.status o.id o.status o.failureReason r] [])
    (hph : l.phase = .claiming o t hd due)
    (hph' : l'.phase = .executing o n) :
    Audited table ops j' (w.loops.set i l') := by
  have hholds := h.holds
  rw [hph] at hholds
  have hno : ∀ id, l.phase.rejects id = false := by
    rw [hph]
    exact fun _ => rfl
  refine h.audited.setLoop h.loop h.alone h.grows h.tally (fun _ => rfl)
    (fun id => ?_) (fun o' ho' => ?_) fun o' n hx => ?_
  · rw [h.isUnanswered_eq_false hno]
    exact Nat.zero_le _
  · rw [hph'] at ho'
    obtain rfl := Option.some.inj ho'
    exact ⟨o, by rw [hph]; rfl, rfl⟩
  · rw [hph'] at hx
    obtain ⟨rfl, -⟩ := LoopPhase.executing.inj hx
    exact hholds.2.1

/-- It has seen the end of the call. -/
lemma concluded {v : Verdict}
    (h : LoopTurn table base ops s j' w i l l' []
      [.counted (.operations v)])
    (hph : l.phase = .executing o n) (hph' : l'.phase = .reporting o' due)
    (hid' : o'.id = o.id) : Audited table ops j' (w.loops.set i l') := by
  have hholds := h.holds
  rw [hph] at hholds
  obtain ⟨-, hst, c, hcall, hid⟩ := hholds
  obtain ⟨o₀, ho₀, hdis⟩ := h.tracked.2.dispatched c
    (List.mem_of_getElem? hcall)
  have hno : ∀ id, l.phase.rejects id = false := by
    rw [hph]
    exact fun _ => rfl
  refine h.audited.conclude h.loop h.alone hph h.tracked.2.distinct
    ⟨o₀, ho₀, hdis.id_eq.symm.trans hid, hdis.isSome⟩ ?_ h.grows h.tally
    (fun o₁ ho₁ => ?_) (fun o n => ?_) (h.isUnanswered_eq_false hno)
  · rw [hst]
    exact List.cons_ne_nil _ _
  · rw [hph'] at ho₁
    obtain rfl := Option.some.inj ho₁
    exact hid'
  · rw [hph']
    exact LoopPhase.noConfusion

/-- All moves of such a loop. -/
lemma audited_of_move {w₁ : Worker} {ph ph' : LoopPhase}
    (h : LoopTurn table base ops s j' w i l l' new tallied)
    (hph : l.phase = ph) (hph' : l'.phase = ph')
    (hm : LoopMove w ph new w₁ ph')
    (htallies : Worker.Tallies w ph new tallied)
    (hpoll : ∀ o, new = [.poll (.ok (some o))] →
      o ∈ ops ∧ o.status = .pending) :
    Audited table ops j' (w.loops.set i l') := by
  have htable := h.tracked.1
  have hno : (∀ id, ph.rejects id = false) →
      ∀ id, l.phase.rejects id = false := fun hall id => by
    rw [hph, hall]
  cases hm with
  | begin hr | wake hr =>
    cases htallies with
    | quiet =>
      exact h.of_isFree (hph' ▸ hr.isFree) (fun _ => rfl) fun id => by
        rw [hno fun _ => rfl]
        exact Nat.zero_le _
  | pollFailed | nothing =>
    cases htallies with
    | quiet hp => exact absurd rfl (hp _)
    | fetched =>
      exact h.of_isFree (hph' ▸ trivial) (fun _ => rfl) fun id => by
        rw [hno fun _ => rfl]
        exact Nat.zero_le _
  | refuse ho => exact absurd (hpoll _ rfl).2 ho
  | reject hc =>
    cases htallies with
    | quiet hp => exact absurd rfl (hp _)
    | fetched hr => exact absurd rfl (hr _)
    | accepts hc' => rw [hc] at hc'; cases hc'
    | rejects =>
      exact h.reject (hno fun _ => rfl) hph' rfl (hpoll _ rfl).1 (htable ▸ hc)
  | accept hd =>
    cases htallies with
    | quiet hp => exact absurd rfl (hp _)
    | fetched hr => exact absurd rfl (hr _)
    | rejects hc =>
      have hsome := hd.isSome
      rw [hc] at hsome
      cases hsome
    | accepts hc =>
      exact h.accept (hno fun _ => rfl) hph' rfl (hpoll _ rfl).1 (htable ▸ hc)
  | rejected hr =>
    cases htallies with
    | quiet => exact h.rejected hph (hph' ▸ hr.isFree)
  | claimed =>
    cases htallies with
    | quiet => exact h.claimed hph hph'
  | unclaimed =>
    cases htallies with
    | quiet =>
      exact h.of_isFree (hph' ▸ trivial) (fun _ => rfl) fun id => by
        rw [hno fun _ => rfl]
        exact Nat.zero_le _
  | conclude _ hc =>
    have hholds := h.holds
    rw [hph] at hholds
    obtain ⟨due, rfl⟩ := hc.2 hholds.1
    cases htallies with
    | quiet _ he => exact absurd rfl (he _ _)
    | concludes => exact h.concluded hph hph' rfl
  | reported hr =>
    cases htallies with
    | quiet =>
      exact h.of_isFree (hph' ▸ hr.isFree) (fun _ => rfl) fun id => by
        rw [hno fun _ => rfl]
        exact Nat.zero_le _

end LoopTurn

/-- The steps of a loop. -/
theorem stepLoop (h : Audited table ops s.journal w.loops)
    (ht : Tracked table base ops s w)
    (hs : Worker.stepLoop H.platform s w i = some (s', w')) :
    Audited table ops s'.journal w'.loops := by
  obtain ⟨l, hl, hne, hcases⟩ := Worker.stepLoop_cases hs
  have hset : ∀ l' l₁, l₁ ∈ w.loops.set i l' →
      l₁ = l' ∨ l₁.phase = .exited :=
    fun _ _ => ht.2.single.exited_of_mem_set hl hne
  rcases hcases with
    ⟨ha, rfl, rfl⟩ | ⟨ha, new, w₁, seen, ph, hm, hg, -, rfl⟩
  · have hext : s'.journal.Extends [] s'.journal :=
      Journal.extends_of_calls (List.append_nil _).symm
    refine h.setLoop hl (hset _) hext rfl (fun _ => rfl) (fun id => ?_)
      (fun o' ho' => by cases ho') fun o n hx => by cases hx
    have hcut : PollLoop.isUnanswered id { l with phase := .exited }
        = true := by
      rw [PollLoop.isUnanswered, ha]
      rfl
    rw [hcut]
    exact (Bool.toNat_le _).trans (Nat.le_add_right _ _)
  · obtain ⟨tallied, ⟨es, he, -, rfl⟩, htallies⟩ :=
      Worker.tallies_stepLoop hs hl ha hg
    show Audited table ops s'.journal (w₁.loops.set i _)
    rw [(Worker.loops_of_loopMove hm).1]
    have hturn : LoopTurn table base ops s s'.journal w i l
        { { l with seen } with phase := ph } new _ :=
      ⟨h, ht, hl, hset _, ha, ha, Journal.extends_of_calls hg.calls,
        he.tally⟩
    refine hturn.audited_of_move rfl rfl hm htallies fun o hes => ?_
    -- what the platform hands out was issued as pending
    have hanswer := Worker.answers_stepLoop hs (hes ▸ hg.calls)
    obtain ⟨hmem, hp⟩ :=
      MemoryPlatform.mem_of_poll (congrArg Prod.fst hanswer.of_poll)
    exact ⟨(ht.2.of_pending hmem hp).1, hp⟩

end Audited

/-! ### Moves -/

/-- A loop that is where it was, and is still to be cut off if it was. -/
def PollLoop.Keeps (l l' : PollLoop) : Prop :=
  l'.phase = l.phase ∧ (l.aborted = true → l'.aborted = true)

section Keeps

variable {loops loops' : List PollLoop}

lemma forall₂_keeps_refl (loops : List PollLoop) :
    List.Forall₂ PollLoop.Keeps loops loops :=
  List.forall₂_same.2 fun _ _ => ⟨rfl, id⟩

lemma exists_of_forall₂_keeps (h : List.Forall₂ PollLoop.Keeps loops loops')
    {l' : PollLoop} (hl' : l' ∈ loops') :
    ∃ l ∈ loops, l'.phase = l.phase := by
  obtain ⟨k, hk, rfl⟩ := List.mem_iff_getElem.1 hl'
  obtain ⟨hlen, hget⟩ := List.forall₂_iff_get.1 h
  exact ⟨loops[k], List.getElem_mem _, (hget k (hlen ▸ hk) hk).1⟩

lemma countP_isUnanswered_le (h : List.Forall₂ PollLoop.Keeps loops loops')
    (id : String) : loops.countP (·.isUnanswered id)
      ≤ loops'.countP (·.isUnanswered id) := by
  induction h with
  | nil => exact le_refl _
  | @cons l l' _ _ hl _ ih =>
    have himp : l.isUnanswered id = true → l'.isUnanswered id = true := by
      simp only [PollLoop.isUnanswered, PollLoop.isOver, hl.1,
        Bool.or_eq_true, Bool.and_eq_true]
      exact Or.imp_right (And.imp_right hl.2)
    rw [List.countP_cons, List.countP_cons]
    refine Nat.add_le_add ih ?_
    by_cases hu : l.isUnanswered id = true
    · rw [if_pos hu, if_pos (himp hu)]
    · rw [if_neg hu]
      exact Nat.zero_le _

end Keeps

namespace Worker

lemma keeps_abortLoop (w : Worker) (i : Nat) :
    List.Forall₂ PollLoop.Keeps w.loops (w.abortLoop i).loops := by
  rw [abortLoop, List.forall₂_iff_get]
  refine ⟨(List.length_modify ..).symm, fun k hk hk' => ?_⟩
  simp only [List.get_eq_getElem, List.getElem_modify]
  split
  · exact ⟨rfl, fun _ => rfl⟩
  · exact ⟨rfl, id⟩

lemma loops_abortInFlight (w : Worker) :
    w.abortInFlight.1.loops = w.loops := by
  rw [abortInFlight]
  split <;> rfl

lemma loops_resume {w w' : Worker} {h h' : Halt}
    (hr : w.resume h = some (w', h')) : w'.loops = w.loops := by
  cases resume_cases hr <;> rfl

lemma keeps_beginAbort (w : Worker) :
    List.Forall₂ PollLoop.Keeps w.loops w.beginAbort.1.loops := by
  unfold beginAbort
  dsimp only
  split
  · exact keeps_abortLoop { w with running := false } _
  · rw [loops_abortInFlight]
    exact forall₂_keeps_refl _

lemma keeps_destroy (w : Worker) :
    List.Forall₂ PollLoop.Keeps w.loops w.destroy.loops := by
  cases hc : current? { w with running := false } with
  | none =>
    simp only [destroy, hc]
    split <;> exact forall₂_keeps_refl _
  | some i =>
    simp only [destroy, hc]
    split <;> exact keeps_abortLoop { w with running := false } i

end Worker

namespace Audited

variable {τ : Type} {H : Host τ} {table : HandlerTable}
  {base : List StatusWrite} {ops : List Operation} {j j' : Journal}
  {loops loops' : List PollLoop}

/-- What the tasks enter while every loop stays where it is. -/
lemma keeps (h : Audited table ops j loops)
    (hk : List.Forall₂ PollLoop.Keeps loops loops') {new : List Event}
    (hj : j.Extends new j') (ht : j'.tally = j.tally)
    (hnew : ∀ id, new.countP (Event.handsOut id) = 0) :
    Audited table ops j' loops' := by
  refine h.goesOn ht (fun id => ?_) (fun id => ?_) (fun id => ?_)
    (fun l' hl' o ho => ?_) fun l' hl' o n hx => ?_
  · rw [hj.handouts, hnew, Nat.add_zero]
  · exact ⟨_, (hj.statuses id).symm⟩
  · have hle := countP_isUnanswered_le hk id
    rw [hj.failedWrites, hj.statuses, List.length_append]
    omega
  · obtain ⟨l, hl, hph⟩ := exists_of_forall₂_keeps hk hl'
    exact ⟨l, hl, o, hph ▸ ho, rfl⟩
  · obtain ⟨l, hl, hph⟩ := exists_of_forall₂_keeps hk hl'
    exact .inr ⟨l, hl, hph ▸ hx⟩

variable {s s' : Site (MemoryPlatform × τ)} {w w' : Worker}

/-- A caller enters at most its return. -/
lemma caller (h : Audited table ops s.journal loops)
    (hs : WorkerSystem.AtMostReturned s s')
    (hk : List.Forall₂ PollLoop.Keeps loops loops') :
    Audited table ops s'.journal loops' := by
  rcases hs with rfl | ⟨n, rfl⟩
  · exact h.keeps hk (Journal.extends_of_calls (List.append_nil _).symm) rfl
      fun _ => rfl
  · have hcalls : (s.note (.returned n)).journal.calls
        = s.journal.calls ++ [] := by
      rw [List.append_nil]
      exact Journal.calls_cons_of_not_isCall rfl _
    exact h.keeps hk (Journal.extends_of_calls hcalls)
      (Journal.tally_cons ..) fun _ => rfl

/-- The steps of a call of a handler. -/
theorem stepCall {i : Nat} (h : Audited table ops s.journal w.loops)
    (hs : Worker.stepCall H.platform s w i = some (s', w')) :
    Audited table ops s'.journal w'.loops := by
  obtain ⟨_, es, he, -, htal⟩ := Worker.adds_stepCall hs
  obtain ⟨c, new, ph, -, hm, hg, rfl⟩ := Worker.stepCall_cases hs
  refine h.keeps (forall₂_keeps_refl w.loops)
    (Journal.extends_of_calls hg.calls) ?_ fun id => ?_
  · rw [he.tally, htal]
    rfl
  · cases hm <;> rfl

/-- All moves, if a loop is only started when no other one is alive. -/
theorem move {s s' : WorkerSystem (MemoryPlatform × τ)}
    (hm : WorkerSystem.Move H.platform WorkerSystem.IsResting s s')
    (ht : Tracked table base ops s.site s.worker)
    (h : Audited table ops s.site.journal s.worker.loops) :
    Audited table ops s'.site.journal s'.worker.loops := by
  have hreturn : ∀ (i : Nat) (c : Halt), WorkerSystem.AtMostReturned s.site
      (WorkerSystem.noteReturn s.site i c) :=
    WorkerSystem.atMostReturned_noteReturn s.site
  cases hm with
  | step hs =>
    cases hs with
    | run t hrun =>
      cases WorkerSystem.step_cases hrun with
      | loop hl => exact h.stepLoop ht hl
      | call hc => exact h.stepCall hc
      | caller _ hr =>
        refine h.caller (hreturn _ _) ?_
        rw [Worker.loops_resume hr]
        exact forall₂_keeps_refl _
      | destroy => exact h.caller (.inl rfl) (Worker.keeps_destroy _)
    | wait => exact h
  | start hrest hs =>
    obtain ⟨w', hw, rfl⟩ := Option.map_eq_some_iff.1 hs
    obtain ⟨-, rfl⟩ := Worker.start?_eq_some hw
    exact h.start rfl
  | stop =>
    refine h.caller (hreturn _ _) ?_
    show List.Forall₂ _ _ s.worker.beginStop.1.loops
    rw [(Worker.alive_beginStop _).1]
    exact forall₂_keeps_refl _
  | abort => exact h.caller (hreturn _ _) (Worker.keeps_beginAbort _)
  | release | clock => exact h

end Audited

/-! ### How often operations are counted -/

/-- If all loops but one have exited, at most that one is unanswered
without being cut off. -/
lemma countP_isUnanswered_le_aborted {loops : List PollLoop} (id : String)
    (h : EarlierExited (loops.map (·.phase))) :
    loops.countP (·.isUnanswered id) ≤ loops.countP (·.aborted) + 1
      ∧ ((∀ l ∈ loops, l.phase.rejects id = false) →
        loops.countP (·.isUnanswered id) ≤ loops.countP (·.aborted)) := by
  -- a loop that is about to fail nothing was cut off
  have hcut : ∀ l : PollLoop, l.phase.rejects id = false →
      l.isUnanswered id = true → l.aborted = true := fun l hr hu => by
    rw [PollLoop.isUnanswered, hr, Bool.false_or, Bool.and_eq_true] at hu
    exact hu.2
  refine ⟨?_, fun hr => List.countP_mono_left fun l hl => hcut l (hr l hl)⟩
  rcases List.eq_nil_or_concat loops with rfl | ⟨init, last, rfl⟩
  · exact Nat.zero_le _
  · have hinit : init.countP (·.isUnanswered id)
        ≤ init.countP (·.aborted) := by
      refine List.countP_mono_left fun l hl => hcut l ?_
      obtain ⟨k, hk, rfl⟩ := List.mem_iff_getElem.1 hl
      have hget := h k (by simp; omega)
      rw [List.getElem?_map, List.concat_eq_append,
        List.getElem?_append_left hk, List.getElem?_eq_getElem hk,
        Option.map_some, Option.some.injEq] at hget
      rw [hget]
      rfl
    rw [List.concat_eq_append, List.countP_append, List.countP_append,
      List.countP_singleton]
    split <;> omega

/-- How the operations of a run are counted. -/
structure Counted (table : HandlerTable) (ops : List Operation)
    (j : Journal) (loops : List PollLoop) : Prop where
  /-- Each count is for an operation that was issued and handed out. -/
  issued : ∀ c ∈ j.tally.counted, ∃ o ∈ ops, c.1 = some o.id
  /-- The counters of all verdicts are these counts. -/
  total : ∀ v, j.count (.operations v) = j.tally.counted.countP (·.2 = v)
  /-- An operation that can be converted is counted at most once. -/
  once : ∀ o ∈ ops,
    (Matching.convert? o table.supportedKinds).isSome = true →
      (j.tally.verdicts o.id).length ≤ 1
  /-- One that cannot is counted each time it is handed out. -/
  unsupported : ∀ o ∈ ops,
    Matching.convert? o table.supportedKinds = none →
      (∀ v ∈ j.tally.verdicts o.id, v = .unsupported)
        ∧ (j.tally.verdicts o.id).length = j.handouts o.id
  /-- It is handed out once, and once more for each write of its failure
  that fails and each loop that is cut off. -/
  bounded : ∀ o ∈ ops,
    Matching.convert? o table.supportedKinds = none →
      j.handouts o.id
        ≤ 1 + j.failedWrites o.id + loops.countP (·.aborted)

variable {τ : Type} {H : Host τ} {m : MemoryPlatform}
  {table : HandlerTable} {interval : Span} {ops : List Operation}
  {s : WorkerSystem (MemoryPlatform × τ)}

/-- An operation is not written before it was answered, and once. -/
lemma Ledger.statuses_add_le {base : List StatusWrite} {j : Journal}
    {loops : List PollLoop} {calls : List HandlerCall}
    (h : Ledger table base ops m j (loops.map (·.phase)) calls)
    {o : Operation} (ho : o ∈ ops)
    (hc : Matching.convert? o table.supportedKinds = none) :
    (j.statuses o.id).length + loops.countP (·.isUnanswered o.id)
      ≤ 1 + loops.countP (·.aborted) := by
  obtain ⟨hle, hnone⟩ := countP_isUnanswered_le_aborted o.id h.single
  by_cases hr : ∀ l ∈ loops, l.phase.rejects o.id = false
  · have hlen : (j.statuses o.id).length ≤ 1 := by
      have hpath := h.paths o ho
      generalize j.statuses o.id = l at hpath
      cases hpath with
      | untouched => exact Nat.zero_le _
      | rejected => exact le_refl _
      | claimed _ hsome | concluded _ hsome =>
        rw [hc] at hsome
        cases hsome
    exact Nat.add_le_add hlen (hnone hr)
  · -- nothing was written for what a loop is about to fail
    push Not at hr
    obtain ⟨l, hl, hrej⟩ := hr
    have hholds := h.holds l.phase (List.mem_map_of_mem hl)
    have hnil : j.statuses o.id = [] := by
      cases hph : l.phase with
      | rejecting o' due =>
        rw [hph] at hrej hholds
        have hid : o'.id = o.id := by simpa [LoopPhase.rejects] using hrej
        exact hid ▸ hholds.2.1
      | _ =>
        rw [hph] at hrej
        exact absurd rfl hrej
    rw [hnil, List.length_nil]
    omega

/-- A new worker has counted nothing. -/
lemma audited_new : Audited table ops [] [] where
  handed l hl := by cases hl
  counted c hc := by cases hc
  known id hne := absurd rfl hne
  once o _ _ := ⟨Nat.zero_le _, fun hne => absurd rfl hne,
    fun hne => absurd rfl hne⟩
  each o _ _ := ⟨fun v hv => (by cases hv), rfl, Nat.zero_le _⟩

lemma audited_of_reaches (hd : (m.operations.map (·.id)).Nodup)
    (h : WorkerSystem.Reaches H m table interval ops s) :
    Audited table ops s.site.journal s.worker.loops := by
  induction h with
  | new => exact audited_new
  | move h hm ih => exact ih.move hm (tracked_of_reaches hd h)
  | outside _ _ _ _ ih => exact ih
  | push _ hnew ih => exact ih.push hnew

namespace WorkerSystem

/-- In every run with one writer, however polls and writes fail and
however often the worker is started, stopped and aborted: an operation
that can be converted is counted at most once, and one that cannot is
counted each time it is handed out. -/
theorem counted_of_reaches (hd : (m.operations.map (·.id)).Nodup)
    (h : Reaches H m table interval ops s) :
    Counted table ops s.site.journal s.worker.loops := by
  have haudit := audited_of_reaches hd h
  have hledger := (tracked_of_reaches hd h).2
  refine {
    issued := haudit.counted
    total := fun v => Journal.count_operations v _
    once := fun o ho hc => (haudit.once o ho hc).once
    unsupported := fun o ho hc =>
      ⟨(haudit.each o ho hc).unsupported, (haudit.each o ho hc).each⟩
    bounded := fun o ho hc => ?_ }
  have hle := hledger.statuses_add_le ho hc
  calc s.site.journal.handouts o.id
      ≤ s.site.journal.failedWrites o.id
          + (s.site.journal.statuses o.id).length
          + s.worker.loops.countP (·.isUnanswered o.id) :=
        (haudit.each o ho hc).bounded
    _ ≤ 1 + s.site.journal.failedWrites o.id
          + s.worker.loops.countP (·.aborted) := by omega

/-- An operation that nobody takes and a restart are pending, and the
first write will fail. -/
def unwelcome : MemoryPlatform where
  operations := [(Operation.new "1").withFragment "c8y_Command" (.object []),
    pendingRestart "2"]
  failingWrites := 1

/-- A worker that came upon the failure, was stopped and started again. -/
def recountingWorker : WorkerSystem (MemoryPlatform × Unit) :=
  let settle := (machine Host.prompt.platform).settle 60
  let s : WorkerSystem (MemoryPlatform × Unit) := {
    site := { world := (unwelcome, ()) }
    worker := .new (.ofRegistrations [⟨restarter, restarter.kinds⟩])
      (.ofMillis 100) }
  settle (settle (settle s.startIfStopped).stop).startIfStopped

/-- The first operation is counted twice, since it is handed out again
after the failure, and the second one is counted once. -/
theorem counted_recountingWorker :
    let table : HandlerTable :=
      .ofRegistrations [⟨restarter, restarter.kinds⟩]
    let s := recountingWorker
    (unwelcome.operations.map (·.id)).Nodup
      ∧ Reaches Host.prompt unwelcome table (.ofMillis 100)
        unwelcome.operations s
      ∧ Counted table unwelcome.operations s.site.journal s.worker.loops
      ∧ s.site.journal.tally.verdicts "1" = [.unsupported, .unsupported]
      ∧ s.site.journal.failedWrites "1" = 1
      ∧ s.site.journal.tally.verdicts "2" = [.successful] := by
  intro table s
  have hd : (unwelcome.operations.map (·.id)).Nodup := by decide
  have h : Attended Host.prompt unwelcome table (.ofMillis 100)
      unwelcome.operations s := by
    refine .runs (.startIfStopped (.runs (.stop (.runs (.startIfStopped
      (.new 0 ()) ?_) (Machine.settle_runs 60 _)) ?_)
        (Machine.settle_runs 60 _)) ?_) (Machine.settle_runs 60 _)
    · exact fun c hc => by cases hc
    all_goals
      unfold NobodyWaits
      decide +kernel
  exact ⟨hd, h.reaches, counted_of_reaches hd h.reaches, by decide +kernel,
    by decide +kernel, by decide +kernel⟩

end WorkerSystem

end RemoteOps
