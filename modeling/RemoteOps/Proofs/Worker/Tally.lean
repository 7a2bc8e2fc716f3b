/-
What a worker counts of the operations that it is handed.

An operation that a handler takes is counted when its call is over; one
that nobody takes is counted when it is handed out, before the write that
fails it.

* `Tally`: what was counted, each time for the operation that was handed
  out last;
* `Journal.Extends`: how often an operation was handed out and its writes
  have failed, after some further calls;
* `Worker.Tallies`, `Worker.tallies_stepLoop`: what a step of a loop adds
  to the tally.
-/
import RemoteOps.Proofs.Worker.Steps

namespace RemoteOps

/-! ### Tallies -/

/-- What was counted of operations, the first count first, and the
identifier that was handed out last. -/
structure Tally where
  handed : Option String := none
  /-- Each count with the identifier that had been handed out last. -/
  counted : List (Option String × Verdict) := []

namespace Tally

/-- The tally after one more event. -/
def enter (t : Tally) : Event → Tally
  | .poll (.ok (some o)) => { t with handed := some o.id }
  | .counted (.operations v) =>
    { t with counted := t.counted ++ [(t.handed, v)] }
  | _ => t

/-- What was counted for an identifier. -/
def verdicts (t : Tally) (id : String) : List Verdict :=
  (t.counted.filter (·.1 = some id)).map (·.2)

end Tally

/-- An event that changes the tally. -/
def Event.isTallied : Event → Bool
  | .poll (.ok (some _)) | .counted (.operations _) => true
  | _ => false

/-- An event by which an operation with an identifier is handed out. -/
def Event.handsOut (id : String) : Event → Bool
  | .poll (.ok (some o)) => o.id = id
  | _ => false

/-- A write of a status for an identifier that fails. -/
def Event.failsToWrite (id : String) : Event → Bool
  | .status id' _ _ (.error _) => id' = id
  | _ => false

namespace Journal

/-- The tally of a journal. -/
def tally (j : Journal) : Tally := j.events.foldl Tally.enter {}

/-- How often an operation with an identifier was handed out. -/
def handouts (id : String) (j : Journal) : Nat :=
  j.calls.countP (Event.handsOut id)

/-- How often the write of a status for an identifier has failed. -/
def failedWrites (id : String) (j : Journal) : Nat :=
  j.calls.countP (Event.failsToWrite id)

/-- Some further calls, as they show in what is counted and recorded. -/
structure Extends (new : List Event) (j j' : Journal) : Prop where
  handouts : ∀ id, j'.handouts id
    = j.handouts id + new.countP (Event.handsOut id)
  failedWrites : ∀ id, j'.failedWrites id
    = j.failedWrites id + new.countP (Event.failsToWrite id)
  statuses : ∀ id, j'.statuses id
    = j.statuses id ++ StatusWrite.statuses id (new.filterMap Event.write?)

lemma extends_of_calls {new : List Event} {j j' : Journal}
    (h : j'.calls = j.calls ++ new) : Extends new j j' where
  handouts id := by rw [handouts, h, List.countP_append, handouts]
  failedWrites id := by
    rw [failedWrites, h, List.countP_append, failedWrites]
  statuses id := by
    rw [statuses, written_eq, h, List.filterMap_append,
      StatusWrite.statuses, List.filter_append, List.map_append,
      ← written_eq]
    rfl

end Journal

namespace Tally

variable {t : Tally} {id : String}

lemma foldl_enter (t : Tally) (es : List Event) :
    es.foldl enter t = (es.filter Event.isTallied).foldl enter t := by
  rw [List.foldl_filter]
  congr 1
  funext t e
  cases e with
  | poll r =>
    match r with
    | .ok (some o) | .ok none | .error e => rfl
  | counted c => cases c <;> rfl
  | _ => rfl

/-- One more count. -/
lemma verdicts_enter (t : Tally) (v : Verdict) (id : String) :
    (t.enter (.counted (.operations v))).verdicts id
      = t.verdicts id ++ if t.handed = some id then [v] else [] := by
  rw [verdicts, enter, List.filter_append, List.map_append, verdicts]
  by_cases h : t.handed = some id <;> simp [h]

end Tally

namespace Journal

lemma tally_cons (e : Entry) (j : Journal) :
    tally (e :: j) = j.tally.enter e.event := by
  rw [tally, events_cons, List.foldl_append]
  rfl

/-- The counters show what the tally shows. -/
lemma count_operations (v : Verdict) (j : Journal) :
    j.count (.operations v) = j.tally.counted.countP (·.2 = v) := by
  induction j with
  | nil => rfl
  | cons e j ih =>
    rw [count_cons, ih, tally_cons, counts]
    cases e.event with
    | poll r =>
      match r with
      | .ok (some o) | .ok none | .error e => rfl
    | counted c =>
      cases c with
      | operations v' =>
        simp [Tally.enter, List.countP_append, eq_comm]
      | pollErrors | reconciled => rfl
    | _ => rfl

end Journal

namespace Site

variable {σ : Type} {s s' : Site σ} {es new : List Event}

lemma Enters.tally (h : s.Enters es s') : s'.journal.tally
    = (es.filter Event.isTallied).foldl Tally.enter s.journal.tally := by
  rw [Journal.tally, h.events, List.foldl_append, Tally.foldl_enter]
  rfl

end Site

/-! ### What a step counts -/

namespace Worker

variable {σ : Type} {p : Platform σ} {s s' : Site σ} {w w' : Worker}
  {i : Nat} {l : PollLoop}

/-- What a step of a loop in a phase adds to the tally, by the calls that
it makes. -/
inductive Tallies (w : Worker) :
    LoopPhase → List Event → List Event → Prop where
  | quiet {phase : LoopPhase} {new : List Event}
    (hp : ∀ due, phase ≠ .polling due)
    (he : ∀ o n, phase ≠ .executing o n) : Tallies w phase new []
  | fetched {due : Nat} {r : Except Failure (Option Operation)}
    (hr : ∀ o, r ≠ .ok (some o)) : Tallies w (.polling due) [.poll r] []
  | accepts {due : Nat} {o : Operation}
    (hc : (Matching.convert? o w.table.supportedKinds).isSome = true) :
    Tallies w (.polling due) [.poll (.ok (some o))]
      [.poll (.ok (some o))]
  | rejects {due : Nat} {o : Operation}
    (hc : Matching.convert? o w.table.supportedKinds = none) :
    Tallies w (.polling due) [.poll (.ok (some o))]
      [.poll (.ok (some o)), .counted (.operations .unsupported)]
  | concludes {o : Operation} {n : Nat} {v : Verdict} :
    Tallies w (.executing o n) [] [.counted (.operations v)]

/-- A site where some events were entered, with these calls and these that
are tallied among them. -/
def Adds (s : Site σ) (new tallied : List Event) (s' : Site σ) : Prop :=
  ∃ es, s.Enters es s' ∧ es.filter Event.isCall = new
    ∧ es.filter Event.isTallied = tallied

lemma adds_refl (s : Site σ) : Adds s [] [] s := ⟨[], .refl s, rfl, rfl⟩

lemma adds_answered (s : Site σ) (x : σ) (e : Event) :
    Adds s ([e].filter Event.isCall) ([e].filter Event.isTallied)
      (s.answered x e) :=
  ⟨[e], .answered s x e, rfl, rfl⟩

namespace Adds

variable {new tallied : List Event} (h : Adds s new tallied s')

include h

lemma quiet {e : Event} (hc : e.isCall = false)
    (ht : e.isTallied = false) : Adds s new tallied (s'.note e) := by
  obtain ⟨es, he, rfl, rfl⟩ := h
  exact ⟨es ++ [e], he.note e, by simp [hc], by simp [ht]⟩

lemma count (v : Verdict) : Adds s new
    (tallied ++ [.counted (.operations v)])
    (s'.note (.counted (.operations v))) := by
  obtain ⟨es, he, rfl, rfl⟩ := h
  exact ⟨es ++ [.counted (.operations v)], he.note _,
    by simp [Event.isCall], by simp [Event.isTallied]⟩

lemma failCycle (w : Worker) :
    Adds s new tallied (Worker.failCycle s' w).1 :=
  h.quiet rfl rfl

lemma endCycle (w : Worker) (r : Except Failure Unit) :
    Adds s new tallied (Worker.endCycle p s' w r).1 := by
  cases r with
  | ok u => exact h
  | error e => exact h.failCycle w

/-- An operation that cannot be converted is counted. -/
lemma reject (w : Worker) (o : Operation) (reason : String) :
    Adds s new (tallied ++ [.counted (.operations .unsupported)])
      (Worker.reject p s' w o reason).1 := by
  rw [Worker.reject]
  split
  · exact h.count .unsupported
  · exact (h.count .unsupported).failCycle w

end Adds

lemma tallies_dispatch (due : Nat) {o : Operation}
    (h : Adds s [.poll (.ok (some o))] [.poll (.ok (some o))] s')
    (w : Worker) : ∃ tallied,
      Adds s [.poll (.ok (some o))] tallied (dispatch p s' w o).1
        ∧ Tallies w (.polling due) [.poll (.ok (some o))] tallied := by
  rw [dispatch]
  cases hc : Matching.convert? o w.table.supportedKinds with
  | none => exact ⟨_, h.reject w o _, .rejects hc⟩
  | some t =>
    obtain ⟨owner, hown⟩ := HandlerTable.exists_handlerFor?
      (Matching.kind_mem_of_convert? hc)
    have haccepts : Tallies w (.polling due) [.poll (.ok (some o))]
        [.poll (.ok (some o))] := .accepts (by rw [hc]; rfl)
    simp only [hown]
    split
    · exact ⟨_, h, haccepts⟩
    · exact ⟨_, h.failCycle w, haccepts⟩

/-- What a loop that is not to be cut off adds to the tally. -/
lemma tallies_runLoop (h : runLoop p s w i l = some (s', w')) :
    ∃ new tallied, Adds s new tallied s' ∧ Tallies w l.phase new tallied := by
  have hwrite : ∀ o : Operation, ∃ new,
      Adds s new [] (s.writeStatus p o).2 := fun o =>
    ⟨_, adds_answered s _ _⟩
  cases hph : l.phase with
  | spawned =>
    simp only [runLoop, hph] at h
    cases h
    exact ⟨_, _, adds_refl s, .quiet (fun _ => LoopPhase.noConfusion)
      fun _ _ => LoopPhase.noConfusion⟩
  | polling due =>
    simp only [runLoop, hph] at h
    split at h
    · cases h
      have hpoll : Adds s [.poll (s.poll p).1]
          ([.poll (s.poll p).1].filter Event.isTallied) (s.poll p).2 :=
        adds_answered s _ (.poll (s.poll p).1)
      rcases hr : (s.poll p).1 with e | _ | o <;> rw [hr] at hpoll
      · exact ⟨_, _, hpoll.failCycle w, .fetched fun o => by simp⟩
      · exact ⟨_, _, hpoll, .fetched fun o => by simp⟩
      · obtain ⟨tallied, ha, ht⟩ := tallies_dispatch due hpoll w
        exact ⟨_, tallied, ha, ht⟩
    · cases h
  | rejecting o due | reporting o due =>
    simp only [runLoop, hph] at h
    split at h
    · cases h
      obtain ⟨new, ha⟩ := hwrite o
      exact ⟨new, [], ha.endCycle w _, .quiet
        (fun _ => LoopPhase.noConfusion) fun _ _ => LoopPhase.noConfusion⟩
    · cases h
  | claiming o t hd due =>
    simp only [runLoop, hph] at h
    obtain ⟨new, ha⟩ := hwrite o
    have ht : Tallies w (.claiming o t hd due) new [] := .quiet
      (fun _ => LoopPhase.noConfusion) fun _ _ => LoopPhase.noConfusion
    split at h
    · split at h
      · cases h
        exact ⟨new, [], ha, ht⟩
      · cases h
        exact ⟨new, [], ha.failCycle w, ht⟩
    · cases h
  | executing o n =>
    simp only [runLoop, hph] at h
    split at h
    · next r heq =>
      cases h
      have hcount := (adds_refl s).count (report r).verdict
      refine ⟨[], [.counted (.operations (report r).verdict)], ?_,
        .concludes⟩
      rw [conclude]
      split
      · exact hcount
      · exact hcount.failCycle _
    · cases h
  | idle due =>
    simp only [runLoop, hph] at h
    split at h
    · cases h
      exact ⟨_, _, adds_refl s, .quiet (fun _ => LoopPhase.noConfusion)
        fun _ _ => LoopPhase.noConfusion⟩
    · cases h
  | exited =>
    simp only [runLoop, hph] at h
    cases h

/-- What a loop that goes on adds to the tally. -/
lemma tallies_stepLoop (h : stepLoop p s w i = some (s', w'))
    (hl : w.loops[i]? = some l) (ha : l.aborted = false)
    {new : List Event} (hg : s.Gains new s') :
    ∃ tallied, Adds s new tallied s' ∧ Tallies w l.phase new tallied := by
  rw [stepLoop, hl] at h
  simp only [ha, Bool.false_eq_true, if_false] at h
  split at h
  · cases h
  · obtain ⟨new', tallied, hadds, ht⟩ := tallies_runLoop h
    -- both are the calls that the step has entered
    obtain rfl : new = new' := by
      obtain ⟨es, he, rfl, -⟩ := hadds
      exact List.append_cancel_left (hg.calls.symm.trans he.calls)
    exact ⟨tallied, hadds, ht⟩

/-- A call of a handler adds nothing. -/
lemma adds_stepCall (h : stepCall p s w i = some (s', w')) :
    ∃ new, Adds s new [] s' := by
  rw [stepCall] at h
  split at h
  · split at h
    · cases h
    · split at h
      · cases h
        exact ⟨_, adds_refl s⟩
      · split at h
        · cases h
          exact ⟨_, adds_answered s _ _⟩
        · split at h
          · cases h
            split
            · exact ⟨_, adds_refl s⟩
            · exact ⟨_, (adds_refl s).quiet rfl rfl⟩
          · cases h
        · cases h
  · cases h

end Worker

end RemoteOps
