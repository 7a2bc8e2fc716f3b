/-
What a journal tells: the events in their order, which writes were
recorded, and how often a handler was called.

* `Site.Enters`: which events a step enters;
* `Journal.statuses_cons`, `Journal.executions_cons`: an entry counts for
  the operation that it is about;
* `Journal.Guarded.cons`: the rule that every call of a handler follows
  the recorded claim of its operation is kept by any other entry.
-/
import Mathlib.Data.List.Infix
import RemoteOps.Journal
import RemoteOps.Proofs.Platform.Memory

namespace RemoteOps

/-! ### Events -/

namespace Journal

/-- The events, the oldest first. -/
def events (j : Journal) : List Event := (j.map (·.event)).reverse

lemma events_cons (e : Entry) (j : Journal) :
    events (e :: j) = j.events ++ [e.event] := by
  rw [events, List.map_cons, List.reverse_cons, events]

lemma events_append (l j : Journal) :
    events (l ++ j) = j.events ++ l.events := by
  rw [events, List.map_append, List.reverse_append, events, events]

end Journal

/-- Some events were entered on a site, at the same time. -/
structure Site.Enters {σ : Type} (s : Site σ) (es : List Event)
    (s' : Site σ) : Prop where
  now : s'.now = s.now
  journal : ∃ l : Journal, s'.journal = l ++ s.journal ∧ l.events = es

namespace Site.Enters

variable {σ : Type} {s s' s'' : Site σ} {es es' : List Event}

lemma refl (s : Site σ) : s.Enters [] s := ⟨rfl, [], rfl, rfl⟩

lemma events (h : s.Enters es s') :
    s'.journal.events = s.journal.events ++ es := by
  obtain ⟨l, hj, rfl⟩ := h.journal
  rw [hj, Journal.events_append]

lemma trans (h : s.Enters es s') (h' : s'.Enters es' s'') :
    s.Enters (es ++ es') s'' := by
  obtain ⟨l, hj, rfl⟩ := h.journal
  obtain ⟨l', hj', rfl⟩ := h'.journal
  refine ⟨h'.now.trans h.now, l' ++ l, ?_, Journal.events_append l' l⟩
  rw [hj', hj, List.append_assoc]

/-- An event is entered, and the platform may change with it. -/
lemma answered (s : Site σ) (world : σ) (e : Event) :
    s.Enters [e] (s.answered world e) := ⟨rfl, [⟨s.now, e⟩], rfl, rfl⟩

lemma note (h : s.Enters es s') (e : Event) :
    s.Enters (es ++ [e]) (s'.note e) :=
  h.trans ⟨rfl, [⟨s'.now, e⟩], rfl, rfl⟩

end Site.Enters

/-! ### Starting and stopping -/

namespace Event

/-- The component that an event says has started. -/
def started? : Event → Option Component
  | .started c => some c
  | _ => none

/-- The component that is told to stop by an event. -/
def stop? : Event → Option Component
  | .stop c => some c
  | _ => none

/-- The kinds that an event says were published. -/
def published? : Event → Option (List String)
  | .publish kinds (.ok ()) => some kinds
  | _ => none

end Event

namespace Journal

/-- The components that have started, the earliest first. -/
def started (j : Journal) : List Component :=
  j.events.filterMap Event.started?

/-- The components that were told to stop, the earliest first. -/
def told (j : Journal) : List Component := j.events.filterMap Event.stop?

/-- The kinds that were published, the earliest first. -/
def published (j : Journal) : List (List String) :=
  j.events.filterMap Event.published?

lemma mem_started {j : Journal} {c : Component} :
    c ∈ j.started ↔ .started c ∈ j.events := by
  refine ⟨fun h => ?_, fun h => List.mem_filterMap.2 ⟨_, h, rfl⟩⟩
  obtain ⟨e, he, heq⟩ := List.mem_filterMap.1 h
  cases e with
  | started c' =>
    obtain rfl := Option.some.inj heq
    exact he
  | _ => cases heq

lemma mem_told {j : Journal} {c : Component} :
    c ∈ j.told ↔ .stop c ∈ j.events := by
  refine ⟨fun h => ?_, fun h => List.mem_filterMap.2 ⟨_, h, rfl⟩⟩
  obtain ⟨e, he, heq⟩ := List.mem_filterMap.1 h
  cases e with
  | stop c' =>
    obtain rfl := Option.some.inj heq
    exact he
  | _ => cases heq

end Journal

namespace Site.Enters

variable {σ : Type} {s s' : Site σ} {es : List Event}

lemma started (h : s.Enters es s') : s'.journal.started
    = s.journal.started ++ es.filterMap Event.started? := by
  rw [Journal.started, h.events, List.filterMap_append, Journal.started]

lemma told (h : s.Enters es s') :
    s'.journal.told = s.journal.told ++ es.filterMap Event.stop? := by
  rw [Journal.told, h.events, List.filterMap_append, Journal.told]

lemma published (h : s.Enters es s') : s'.journal.published
    = s.journal.published ++ es.filterMap Event.published? := by
  rw [Journal.published, h.events, List.filterMap_append, Journal.published]

end Site.Enters

/-! ### Writes and calls of handlers -/

/-- The write that an event records, if it is one that succeeded. -/
def Event.write? : Event → Option StatusWrite
  | .status id written reason (.ok ()) => some ⟨id, written, reason⟩
  | .update o (.ok ()) => some ⟨o.id, o.status, o.failureReason⟩
  | _ => none

/-- The operation that a handler is called for, if an event is such a
call. -/
def Event.executed? : Event → Option String
  | .execute _ t => some t.id
  | _ => none

/-- An event that is neither a recorded write nor the call of a
handler. -/
def Event.IsQuiet (e : Event) : Prop := e.write? = none ∧ e.executed? = none

namespace Journal

/-- The writes that were recorded, the oldest first. -/
def written : Journal → List StatusWrite
  | [] => []
  | e :: j => written j ++ e.event.write?.toList

/-- The statuses that were recorded for an identifier, the oldest
first. -/
def statuses (id : String) (j : Journal) : List Status :=
  StatusWrite.statuses id j.written

/-- How often a handler was called for an identifier. -/
def executions (id : String) (j : Journal) : Nat :=
  j.countP fun e => e.event.executed? = some id

/-- Whenever a handler was called, the claim of its operation and nothing
else had been recorded for that operation. -/
def Guarded (j : Journal) : Prop :=
  ∀ e j', e :: j' <:+ j → ∀ h t, e.event = .execute h t →
    statuses t.id j' = [.executing]

/-! ### One more entry -/

section Cons

variable {e : Entry} {j : Journal}

@[simp]
lemma written_nil : written [] = [] := rfl

lemma written_cons : written (e :: j) = j.written ++ e.event.write?.toList :=
  rfl

lemma written_cons_of_none (h : e.event.write? = none) :
    written (e :: j) = j.written := by
  rw [written_cons, h]
  exact List.append_nil _

lemma written_cons_of_some {w : StatusWrite} (h : e.event.write? = some w) :
    written (e :: j) = j.written ++ [w] := by
  rw [written_cons, h]
  rfl

lemma statuses_cons_of_none (h : e.event.write? = none) (id : String) :
    statuses id (e :: j) = statuses id j := by
  rw [statuses, written_cons_of_none h, statuses]

lemma statuses_cons {w : StatusWrite} (h : e.event.write? = some w)
    (id : String) :
    statuses id (e :: j)
      = statuses id j ++ if w.id = id then [w.status] else [] := by
  rw [statuses, written_cons_of_some h, StatusWrite.statuses_append, statuses]

lemma executions_cons (id : String) :
    executions id (e :: j)
      = executions id j + if e.event.executed? = some id then 1 else 0 := by
  simp [executions, List.countP_cons]

lemma executions_cons_of_none (h : e.event.executed? = none) (id : String) :
    executions id (e :: j) = executions id j := by
  simp [executions_cons, h]

lemma guarded_nil : Guarded [] := fun _ _ h => by simp at h

/-- The rule for calls of handlers is kept by an entry that follows it. -/
lemma Guarded.cons (hg : Guarded j)
    (h : ∀ h t, e.event = .execute h t → j.statuses t.id = [.executing]) :
    Guarded (e :: j) := by
  intro e' j' hs
  rcases List.suffix_cons_iff.1 hs with heq | hs
  · obtain ⟨rfl, rfl⟩ := List.cons.inj heq
    exact h
  · exact hg e' j' hs

lemma Guarded.cons_of_none (hg : Guarded j)
    (h : e.event.executed? = none) : Guarded (e :: j) :=
  hg.cons fun h' t he => by simp [he, Event.executed?] at h

end Cons

end Journal

/-! ### Quiet events -/

namespace Event

lemma isQuiet_counted (c : Counter) : IsQuiet (.counted c) := ⟨rfl, rfl⟩

lemma isQuiet_returned (n : Nat) : IsQuiet (.returned n) := ⟨rfl, rfl⟩

lemma isQuiet_poll (r : Except Failure (Option Operation)) :
    IsQuiet (.poll r) := ⟨rfl, rfl⟩

lemma isQuiet_finish (h : Handler) (t : TypedOperation) :
    IsQuiet (.finish h t) := ⟨rfl, rfl⟩

lemma isQuiet_status_error (id : String) (status : Status)
    (reason : Option String) (e : Failure) :
    IsQuiet (.status id status reason (.error e)) := ⟨rfl, rfl⟩

end Event

end RemoteOps
