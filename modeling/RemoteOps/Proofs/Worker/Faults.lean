/-
When a cycle of a worker fails, and when it does not.

What is converted for a dispatch table has an owner in that table and the
form that goes with its kind, so nothing stands between an operation that
is pending and the writes of its status.

* `TypedOperation.Fits`: the form of a typed operation goes with its kind;
* `HandlerTable.Takes`, `HandlerTable.takes_of_convert?`: what is converted
  for a table;
* `Worker.Unfailing`, `Worker.unfailing_of_pending`: no transition of an
  operation that was handed out as pending fails;
* `Explained`: every failed cycle has its fault, and every fault its
  failed cycle;
* `WorkerSystem.Recorded.explained`: so it is in every run of a worker;
* `HandlerTable.isUnfailing_of_retained`: all of this for the tables that
  are left of some candidates.
-/
import RemoteOps.Proofs.Dispatching
import RemoteOps.Proofs.TurningBack
import RemoteOps.Proofs.Worker.Records
import RemoteOps.RestartHandler
import RemoteOps.Service.Reconcile

namespace RemoteOps

/-! ### The form of a typed operation -/

namespace TypedOperation

variable {o : Operation} {kind : String} {t : TypedOperation}

/-- The form of a typed operation goes with its kind. -/
structure Fits (t : TypedOperation) : Prop where
  restart : (∃ header, t = .restart header) ↔ t.kind = Kind.restart
  softwareUpdate : (∃ header software, t = .softwareUpdate header software)
    ↔ t.kind = Kind.softwareList

lemma fits_restart (header : OperationHeader) : (restart header).Fits where
  restart := ⟨fun _ => rfl, fun _ => ⟨header, rfl⟩⟩
  softwareUpdate := by
    have hne : Kind.restart ≠ Kind.softwareList := by decide
    exact ⟨fun ⟨_, _, h⟩ => (by cases h), fun h => absurd h hne⟩

lemma fits_softwareUpdate (header : OperationHeader)
    (software : List SoftwareEntry) :
    (softwareUpdate header software).Fits where
  restart := by
    have hne : Kind.softwareList ≠ Kind.restart := by decide
    exact ⟨fun ⟨_, h⟩ => (by cases h), fun h => absurd h hne⟩
  softwareUpdate := ⟨fun _ => rfl, fun _ => ⟨header, software, rfl⟩⟩

lemma fits_custom (header : OperationHeader) (payload : Json)
    (hr : kind ≠ Kind.restart) (hs : kind ≠ Kind.softwareList) :
    (custom header kind payload).Fits where
  restart := ⟨fun ⟨_, h⟩ => (by cases h), fun h => absurd h hr⟩
  softwareUpdate := ⟨fun ⟨_, _, h⟩ => (by cases h), fun h => absurd h hs⟩

/-- Whatever kind an operation is read as, it takes the form of that
kind. -/
lemma fits_of_ofOperation (h : ofOperation o kind = .ok t) : t.Fits := by
  obtain ⟨payload, hp⟩ := exists_fragment h
  cases (ofOperation_eq_ok_iff hp).1 h with
  | restart => exact fits_restart _
  | softwareUpdate => exact fits_softwareUpdate _ _
  | custom hr hs => exact fits_custom _ _ hr hs

/-- To be claimed changes the form of nothing. -/
lemma Fits.claimed (h : t.Fits) : t.claimed.Fits := by
  cases t with
  | restart header => exact fits_restart _
  | softwareUpdate header software => exact fits_softwareUpdate _ _
  | custom header kind payload =>
    refine fits_custom _ _ (fun hk => ?_) fun hk => ?_
    · obtain ⟨_, hno⟩ := h.restart.2 hk
      cases hno
    · obtain ⟨_, _, hno⟩ := h.softwareUpdate.2 hk
      cases hno

end TypedOperation

/-! ### What a table takes -/

namespace HandlerTable

variable {t : HandlerTable} {o : Operation} {typed : TypedOperation}

/-- An operation is taken in a form that one of the handlers in a table
owns. -/
structure Takes (t : HandlerTable) (o : Operation) (typed : TypedOperation) :
    Prop where
  /-- Its kind is the one that the table supports among its fragments. -/
  matched : Matching.matchKind? o t.supportedKinds = some typed.kind
  /-- The owner of that kind is there and declares it. -/
  owner : ∃ h ∈ t.handlers, t.handlerFor? typed.kind = some h
    ∧ typed.kind ∈ h.kinds
  fits : typed.Fits

/-- What is converted for a table, the table takes. -/
lemma takes_of_convert? (ht : t.IsDispatching)
    (h : Matching.convert? o t.supportedKinds = some typed) :
    t.Takes o typed := by
  obtain ⟨hmatched, hok⟩ := Matching.convert?_eq_some h
  obtain ⟨owner, hown⟩ :=
    exists_handlerFor? (Matching.kind_mem_of_convert? h)
  obtain ⟨hmem, hk⟩ := (ht.owner _ _).1 hown
  exact ⟨hmatched, ⟨owner, hmem, hown, hk⟩,
    TypedOperation.fits_of_ofOperation hok⟩

end HandlerTable

/-! ### The cycle of a pending operation -/

namespace Worker

/-- What a worker does with an operation comes to a write of its status,
whatever becomes of it. -/
structure Unfailing {σ : Type} (p : Platform σ) (s : Site σ) (w : Worker)
    (o : Operation) : Prop where
  /-- If it cannot be converted, it is failed for this reason only. -/
  rejected : Matching.convert? o w.table.supportedKinds = none →
    ∃ failed, o.fail "no handler supports this operation" = (.ok (), failed)
      ∧ dispatch p s w o
        = (s.note (.counted (.operations .unsupported)),
          .rejecting failed (s.due p .status))
  /-- If it can, its kind has an owner, and both forms of it are
  claimed. -/
  claimed : ∀ typed, Matching.convert? o w.table.supportedKinds = some typed →
    ∃ h o' typed', w.table.handlerFor? typed.kind = some h
      ∧ o.transitionTo .executing = (.ok (), o')
      ∧ typed.transitionTo .executing = (.ok (), typed')
      ∧ dispatch p s w o = (s, .claiming o' typed' h (s.due p .status))
  /-- Whatever the call of the owner comes to then, it is reported. -/
  concluded : ∀ o', o.transitionTo .executing = (.ok (), o') →
    ∀ r : Option Outcome, ∃ done,
      o'.transitionTo (report r).status = (.ok (), done)
        ∧ conclude p s w o' r
          = (s.note (.counted (.operations (report r).verdict)),
            .reporting { done with failureReason := (report r).reason }
              (s.due p .status))

variable {σ : Type} (p : Platform σ) (s : Site σ) (w : Worker)
  {o : Operation}

/-- No transition of an operation that is pending fails. -/
lemma unfailing_of_pending (ho : o.status = .pending) :
    Unfailing p s w o where
  rejected hc := by
    refine ⟨_, Operation.fail_pending ho _, ?_⟩
    simp only [dispatch, hc, reject, Operation.fail_pending ho]
    rfl
  claimed typed hc := by
    obtain ⟨h, hown⟩ := HandlerTable.exists_handlerFor?
      (Matching.kind_mem_of_convert? hc)
    have ht : typed.status = .pending :=
      (Matching.status_of_convert? hc).trans ho
    refine ⟨h, _, _, hown, Operation.transitionTo_executing ho,
      TypedOperation.transitionTo_executing ht, ?_⟩
    simp only [dispatch, hc, hown, Operation.transitionTo_executing ho,
      TypedOperation.transitionTo_executing ht]
  concluded o' ho' r := by
    obtain rfl := (Prod.mk.inj
      ((Operation.transitionTo_executing ho).symm.trans ho')).2
    have hdone := Operation.transitionTo_terminal
      (o := { o with status := .executing }) rfl (report_isTerminal r)
    refine ⟨_, hdone, ?_⟩
    simp only [conclude, hdone]
    rfl

end Worker

/-! ### Faults -/

/-- A call of a worker to the platform that has failed. -/
def Event.isFault : Event → Bool
  | .poll (.error _) | .status _ _ _ (.error _) => true
  | _ => false

/-- What has happened at last is why a cycle fails. -/
inductive CycleFails : List Event → Prop where
  /-- A call of the platform has failed. -/
  | call (es : List Event) {e : Event} (he : e.isFault = true) :
    CycleFails (es ++ [e])
  /-- An operation was handed out that is not pending. -/
  | stray (es : List Event) {o : Operation} (ho : o.status ≠ .pending) :
    CycleFails (es ++ [.poll (.ok (some o))])
  /-- Such an operation was counted as one that nobody takes. -/
  | untaken (es : List Event) {o : Operation} (ho : o.status ≠ .pending) :
    CycleFails (es ++ [.poll (.ok (some o)),
      .counted (.operations .unsupported)])

lemma CycleFails.append {es : List Event} (h : CycleFails es) (pre : List Event) :
    CycleFails (pre ++ es) := by
  cases h with
  | call _ he =>
    rw [← List.append_assoc]
    exact .call _ he
  | stray _ ho =>
    rw [← List.append_assoc]
    exact .stray _ ho
  | untaken _ ho =>
    rw [← List.append_assoc]
    exact .untaken _ ho

/-- Cycles fail for a reason, and no fault goes without a failed cycle. -/
structure Explained (es : List Event) : Prop where
  /-- A failed cycle is counted right after what it has failed for. -/
  caused : ∀ pre post, es = pre ++ .counted .pollErrors :: post → CycleFails pre
  /-- A call of the platform that fails makes a cycle fail at once. -/
  counted : ∀ pre e post, es = pre ++ e :: post → e.isFault = true →
    post.head? = some (.counted .pollErrors)

namespace Explained

variable {es es' : List Event} {e : Event} {o : Operation}

lemma append (h : Explained es) (h' : Explained es') :
    Explained (es ++ es') where
  caused pre post heq := by
    rcases append_eq_append_cons heq with
      ⟨mid, hl, -⟩ | ⟨mid, rfl, hl⟩
    · exact h.caused pre mid hl
    · exact (h'.caused mid post hl).append es
  counted pre e post heq he := by
    rcases append_eq_append_cons heq with
      ⟨mid, hl, rfl⟩ | ⟨mid, rfl, hl⟩
    · have hhead := h.counted pre e mid hl he
      rw [List.head?_append, hhead, Option.some_or]
    · exact h'.counted mid e post hl he

lemma nil : Explained [] where
  caused pre post heq := by simp at heq
  counted pre e post heq := by simp at heq

/-- An event that is no fault, and no count of one. -/
lemma quiet (hf : e.isFault = false) (hc : e ≠ .counted .pollErrors) :
    Explained [e] where
  caused pre post heq := by
    obtain ⟨rfl, hl⟩ | ⟨pre', rfl, hl⟩ := List.cons_eq_append_iff.1 heq
    · exact absurd (List.cons.inj hl).1.symm hc
    · simp at hl
  counted pre e' post heq he := by
    obtain ⟨rfl, hl⟩ | ⟨pre', rfl, hl⟩ := List.cons_eq_append_iff.1 heq
    · rw [(List.cons.inj hl).1, hf] at he
      cases he
    · simp at hl

/-- A call of the platform has failed, and its cycle with it. -/
lemma fault (he : e.isFault = true) :
    Explained [e, .counted .pollErrors] where
  caused pre post heq := by
    rcases List.cons_eq_append_iff.1 heq with ⟨rfl, hl⟩ | ⟨pre', rfl, hl⟩
    · rw [← (List.cons.inj hl).1] at he
      cases he
    · rcases List.cons_eq_append_iff.1 hl with ⟨rfl, -⟩ | ⟨pre', rfl, hl⟩
      · exact .call [] he
      · simp at hl
  counted pre e' post heq he' := by
    rcases List.cons_eq_append_iff.1 heq with ⟨rfl, hl⟩ | ⟨pre', rfl, hl⟩
    · rw [(List.cons.inj hl).2]
      rfl
    · rcases List.cons_eq_append_iff.1 hl with ⟨rfl, hl⟩ | ⟨pre', rfl, hl⟩
      · rw [← (List.cons.inj hl).1] at he'
        cases he'
      · simp at hl

/-- A failed cycle is counted behind what it has failed for. -/
lemma count (h : Explained es) (hes : CycleFails es) :
    Explained (es ++ [.counted .pollErrors]) where
  caused pre post heq := by
    rcases concat_eq_append_cons heq with
      ⟨-, -, rfl⟩ | ⟨mid, -, hl⟩
    · exact hes
    · exact h.caused pre mid hl
  counted pre e post heq he := by
    rcases concat_eq_append_cons heq with ⟨-, rfl, -⟩ | ⟨mid, rfl, hl⟩
    · cases he
    · have hhead := h.counted pre e mid hl he
      rw [List.head?_append, hhead, Option.some_or]

/-- Where every operation is pending when it is handed out, a cycle fails
only right after a call of the platform has failed. -/
lemma exists_fault (h : Explained es)
    (hp : ∀ o, .poll (.ok (some o)) ∈ es → o.status = .pending)
    {pre post : List Event} (heq : es = pre ++ .counted .pollErrors :: post) :
    ∃ pre' e, pre = pre' ++ [e] ∧ e.isFault = true := by
  have hmem : ∀ e ∈ pre, e ∈ es := fun e he =>
    heq ▸ List.mem_append_left _ he
  cases h.caused pre post heq with
  | call _ he => exact ⟨_, _, rfl, he⟩
  | stray _ ho | untaken _ ho => exact absurd (hp _ (hmem _ (by simp))) ho

end Explained

/-! ### What the tasks of a worker enter -/

namespace Worker

variable {σ : Type} {p : Platform σ} {s s' s₀ : Site σ} {w w' : Worker}
  {i : Nat} {l : PollLoop} {es : List Event} {o : Operation}

/-- On a site some events were entered that are explained. -/
def Explains (s s' : Site σ) : Prop :=
  ∃ es, s.Enters es s' ∧ Explained es

lemma explains_refl (s : Site σ) : Explains s s := ⟨[], .refl s, .nil⟩

lemma Explains.trans (h : Explains s s') {s'' : Site σ}
    (h' : Explains s' s'') : Explains s s'' := by
  obtain ⟨es, he, hes⟩ := h
  obtain ⟨es', he', hes'⟩ := h'
  exact ⟨es ++ es', he.trans he', hes.append hes'⟩

/-- An event is entered that is no fault, and no count of one. -/
lemma Explains.note (h : Explains s s') {e : Event} (hf : e.isFault = false)
    (hc : e ≠ .counted .pollErrors) : Explains s (s'.note e) :=
  h.trans ⟨[e], (Site.Enters.refl s').note e, .quiet hf hc⟩

lemma explains_answered (s : Site σ) (world : σ) {e : Event}
    (hf : e.isFault = false) (hc : e ≠ .counted .pollErrors) :
    Explains s (s.answered world e) :=
  ⟨[e], .answered s world e, .quiet hf hc⟩

/-- A call of the platform fails, and the cycle with it. -/
lemma explains_fault (s : Site σ) (world : σ) (w : Worker) {e : Event}
    (hf : e.isFault = true) :
    Explains s (failCycle (s.answered world e) w).1 :=
  ⟨[e, .counted .pollErrors],
    (Site.Enters.answered s world e).note (.counted .pollErrors), .fault hf⟩

/-- A cycle ends with the answer to its last write. -/
lemma explains_endCycle (s : Site σ) (w : Worker) (o : Operation) :
    Explains s
      (endCycle p (s.writeStatus p o).2 w (s.writeStatus p o).1).1 := by
  rw [Site.writeStatus]
  dsimp only
  cases (p.writeStatus s.world o.id o.status o.failureReason).1 with
  | ok u => exact explains_answered s _ rfl (by simp)
  | error e => exact explains_fault s _ w rfl

/-- An operation was handed out: its cycle fails only if it is not
pending. -/
lemma explains_dispatch (s : Site σ) (world : σ) (w : Worker)
    (o : Operation) : Explains s
      (dispatch p (s.answered world (.poll (.ok (some o)))) w o).1 := by
  let handed := s.answered world (.poll (.ok (some o)))
  have hpoll : Explains s handed := explains_answered s world rfl (by simp)
  by_cases ho : o.status = .pending
  · have hu := unfailing_of_pending p handed w ho
    cases hc : Matching.convert? o w.table.supportedKinds with
    | none =>
      obtain ⟨failed, -, hd⟩ := hu.rejected hc
      rw [hd]
      exact hpoll.note rfl (by simp)
    | some typed =>
      obtain ⟨h, o', typed', -, -, -, hd⟩ := hu.claimed typed hc
      rw [hd]
      exact hpoll
  · have he := Operation.transitionTo_executing_of_ne ho
    have hentered := Site.Enters.answered s world (.poll (.ok (some o)))
    rw [dispatch]
    cases hc : Matching.convert? o w.table.supportedKinds with
    | none =>
      rw [reject]
      dsimp only
      split
      · exact hpoll.note rfl (by simp)
      · refine ⟨_, (hentered.note _).note _, Explained.count ?_ ?_⟩
        · exact .append (.quiet rfl (by simp)) (.quiet rfl (by simp))
        · exact .untaken [] ho
    | some typed =>
      obtain ⟨owner, hown⟩ := HandlerTable.exists_handlerFor?
        (Matching.kind_mem_of_convert? hc)
      simp only [hown, he]
      refine ⟨_, hentered.note _, Explained.count (.quiet rfl (by simp)) ?_⟩
      exact .stray [] ho

/-- A step of a loop that waits for a call only if it has claimed an
operation enters nothing that is not explained. -/
lemma explains_runLoop (h : runLoop p s w i l = some (s', w'))
    (hex : ∀ o n, l.phase = .executing o n → o.status = .executing) :
    Explains s s' := by
  cases hph : l.phase with
  | spawned =>
    simp only [runLoop, hph] at h
    cases h
    exact explains_refl s
  | polling due =>
    simp only [runLoop, hph, Site.poll] at h
    split at h
    · cases h
      cases (p.poll s.world).1 with
      | error e => exact explains_fault s _ w rfl
      | ok o =>
        cases o with
        | none => exact explains_answered s _ rfl (by simp)
        | some o => exact explains_dispatch s _ w o
    · cases h
  | rejecting o due | reporting o due =>
    simp only [runLoop, hph] at h
    split at h
    · cases h
      exact explains_endCycle s w o
    · cases h
  | claiming o t hd due =>
    simp only [runLoop, hph, Site.writeStatus] at h
    split at h
    · split at h
      · next heq =>
        cases h
        rw [heq]
        exact explains_answered s _ rfl (by simp)
      · next e heq =>
        cases h
        rw [heq]
        exact explains_fault s _ w rfl
    · cases h
  | executing o n =>
    simp only [runLoop, hph] at h
    split at h
    · next r heq =>
      cases h
      obtain ⟨due, hc⟩ := conclude_executing p s { w with inFlight := none }
        (hex o n hph) r
      rw [hc]
      exact (explains_refl s).note rfl (by simp)
    · cases h
  | idle due =>
    simp only [runLoop, hph] at h
    split at h
    · cases h
      exact explains_refl s
    · cases h
  | exited =>
    simp only [runLoop, hph] at h
    cases h

lemma explains_stepLoop (h : stepLoop p s w i = some (s', w'))
    (hex : ∀ l o n, w.loops[i]? = some l → l.phase = .executing o n →
      o.status = .executing) : Explains s s' := by
  rw [stepLoop] at h
  split at h
  · next l hl =>
    split at h
    · cases h
    · split at h
      · cases h
        exact explains_refl s
      · exact explains_runLoop h fun o n => hex l o n hl
  · cases h

/-- A call of a handler enters nothing but its begin and its end. -/
lemma explains_stepCall (h : stepCall p s w i = some (s', w')) :
    Explains s s' := by
  rw [stepCall] at h
  split at h
  · split at h
    · cases h
    · split at h
      · cases h
        exact explains_refl s
      · split at h
        · cases h
          exact explains_answered s _ rfl (by simp)
        · split at h
          · cases h
            split
            · exact explains_refl s
            · exact (explains_refl s).note rfl (by simp)
          · cases h
        · cases h
  · cases h

end Worker

/-! ### Every run of a worker -/

namespace WorkerSystem

variable {σ : Type} {p : Platform σ} {table : HandlerTable}
  {interval : Span} {s s' : WorkerSystem σ} {records : List LoopRecord}

lemma explained_noteReturn (h : Explained s.site.journal.events) (i : Nat)
    (c : Halt) : Explained (noteReturn s.site i c).journal.events := by
  rw [noteReturn]
  split
  · obtain ⟨es, he, hes⟩ := (Worker.explains_refl s.site).note
      (e := .returned i) rfl (by simp)
    rw [he.events]
    exact h.append hes
  · exact h

/-- A loop that waits for a call has claimed its operation. -/
lemma Recorded.status_of_executing (h : Recorded p table interval s records)
    {i n : Nat} {l : PollLoop} {o : Operation}
    (hl : s.worker.loops[i]? = some l) (hph : l.phase = .executing o n) :
    o.status = .executing := by
  obtain ⟨-, hrecorded⟩ := h.isRecorded
  have hi := Worker.phases_getElem? hl
  obtain ⟨r, hr⟩ : ∃ r, records[i]? = some r := by
    refine ⟨_, List.getElem?_eq_getElem ?_⟩
    rw [hrecorded.length]
    exact (List.getElem?_eq_some_iff.1 hi).1
  have hdoing := hrecorded.doing i l.phase r hi hr
  rw [hph] at hdoing
  obtain ⟨o', deeds, -, -, hs, -⟩ := hdoing
  exact hs

/-- In every run of a worker cycles fail for a reason only, and no fault
goes without a failed cycle. -/
theorem Recorded.explained (h : Recorded p table interval s records) :
    Explained s.site.journal.events := by
  induction h with
  | new hj =>
    dsimp only
    rw [hj]
    exact .nil
  | start _ hs ih =>
    obtain ⟨w, -, rfl⟩ := Option.map_eq_some_iff.1 hs
    exact ih
  | loop h hs _ ih =>
    obtain ⟨es, he, hes⟩ := Worker.explains_stepLoop hs
      fun l o n hl hph => h.status_of_executing hl hph
    rw [he.events]
    exact ih.append hes
  | call _ hs ih =>
    obtain ⟨es, he, hes⟩ := Worker.explains_stepCall hs
    rw [he.events]
    exact ih.append hes
  | aside _ hs ih =>
    cases hs with
    | caller | stop | abort => exact explained_noteReturn ih _ _
    | clock | release | destroy | outside => exact ih

/-! ### Calls of handlers -/

/-- Whoever is called, is called for an operation that was dispatched. -/
lemma exists_dispatched_of_lawful {deeds : List Deed}
    (h : Lawful table deeds) {n : Nat} {owner : Handler}
    {typed : TypedOperation} (hm : .called n owner typed ∈ deeds) :
    ∃ o, Dispatched table o typed owner := by
  induction h with
  | nil => cases hm
  | fetched _ _ ih =>
    rcases List.mem_append.1 hm with hm | hm
    · exact ih hm
    · cases List.mem_singleton.1 hm
  | handled _ hh ih =>
    rcases List.mem_append.1 hm with hm | hm
    · exact ih hm
    · rcases List.mem_cons.1 hm with heq | hm
      · cases heq
      · obtain ⟨pre, post, rfl⟩ := List.append_of_mem hm
        exact ⟨_, (hh.called pre n owner typed post rfl).1⟩

lemma Recorded.exists_dispatched (h : Recorded p table interval s records)
    {owner : Handler} {typed : TypedOperation}
    (he : .execute owner typed ∈ s.site.journal.events) :
    ∃ o, Dispatched table o typed owner := by
  have hrecords := lawfully_of_recorded h
  have hcall : .execute owner typed
      ∈ s.site.journal.calls.filter fun e => e.executed?.isSome :=
    List.mem_filter.2 ⟨List.mem_filter.2 ⟨he, rfl⟩, rfl⟩
  obtain ⟨r, hr, hmem⟩ :=
    List.mem_flatMap.1 (hrecords.executed.subset hcall)
  obtain ⟨d, hd, heq⟩ := List.mem_filterMap.1 hmem
  cases d with
  | asked e => cases heq
  | called n owner' typed' =>
    cases heq
    exact exists_dispatched_of_lawful (hrecords.lawful r hr) hd

end WorkerSystem

/-! ### What dispatching relies on -/

namespace HandlerTable

variable {cs : List Handler} {t t' : HandlerTable}

/-- A handler is called for an operation that it is there for. -/
structure Calls (t : HandlerTable) (h : Handler) (typed : TypedOperation) :
    Prop where
  owner : h ∈ t.handlers ∧ t.handlerFor? typed.kind = some h
  declared : typed.kind ∈ h.kinds
  fits : typed.Fits
  /-- A handler of restarts reports what the end of its command means, and
  never finds that the operation is of a kind that it does not execute. -/
  restart : h.kinds = RestartHandler.kinds →
    ∀ (r : RestartHandler) (e : Option Exit),
      r.execute e typed = r.outcome e
        ∧ ∀ kind, r.execute e typed ≠ .erred (.unsupported kind)

lemma calls_of_dispatched (ht : t.IsDispatching) {o : Operation}
    {h : Handler} {typed : TypedOperation}
    (hd : Dispatched t o typed h) : t.Calls h typed := by
  obtain ⟨typed₀, hc, rfl⟩ := hd.converted
  have hfits := (takes_of_convert? ht hc).fits.claimed
  obtain ⟨hmem, hk⟩ := (ht.owner _ _).1 hd.owner
  refine ⟨⟨hmem, hd.owner⟩, hk, hfits, fun hr r e => ?_⟩
  -- the only kind that the handler declares is that of restarts
  rw [hr, RestartHandler.kinds, List.mem_singleton] at hk
  obtain ⟨header, heq⟩ := hfits.restart.2 hk
  exact ⟨by rw [heq, RestartHandler.execute],
    (r.execute_ne_unsupported_iff e).2 ⟨header, heq⟩⟩

/-- Whatever a worker with a table does, it gets stuck nowhere but at the
platform. -/
structure IsUnfailing (t : HandlerTable) : Prop where
  takes : ∀ o typed, Matching.convert? o t.supportedKinds = some typed →
    t.Takes o typed
  /-- No transition of a pending operation fails. -/
  pending : ∀ {σ : Type} (p : Platform σ) (s : Site σ) (w : Worker) o,
    w.table = t → o.status = .pending → Worker.Unfailing p s w o
  /-- However the worker is started, stopped and aborted, its cycles fail
  for a reason. -/
  explained : ∀ {σ : Type} {p : Platform σ} {interval s records},
    WorkerSystem.Recorded p t interval s records →
      Explained s.site.journal.events
  /-- If all that is handed out is pending, the reason is that a call of
  the platform has failed. -/
  faults : ∀ {σ : Type} {p : Platform σ} {interval s records},
    WorkerSystem.Recorded p t interval s records →
      (∀ o, .poll (.ok (some o)) ∈ s.site.journal.events →
        o.status = .pending) → ∀ pre post,
      s.site.journal.events = pre ++ .counted .pollErrors :: post →
        ∃ pre' e, pre = pre' ++ [e] ∧ e.isFault = true
  calls : ∀ {σ : Type} {p : Platform σ} {interval s records},
    WorkerSystem.Recorded p t interval s records → ∀ h typed,
      .execute h typed ∈ s.site.journal.events → t.Calls h typed

lemma isUnfailing_of_isDispatching (ht : t.IsDispatching) :
    t.IsUnfailing where
  takes _ _ h := takes_of_convert? ht h
  pending p s w _ _ ho := Worker.unfailing_of_pending p s w ho
  explained h := h.explained
  faults h hp _ _ heq := h.explained.exists_fault hp heq
  calls h _ _ he := by
    obtain ⟨o, hd⟩ := h.exists_dispatched he
    exact calls_of_dispatched ht hd

end HandlerTable

/-- An operation that is read as an update of software is one, and what is
said of one that has failed never says otherwise. -/
lemma Pass.softwareFault?_ne_other (installed : List InstalledSoftware)
    (o : Operation) (kind : String) : softwareFault? installed o
      ≠ some ("expected a software list, found " ++ kind) := by
  have hne : ∀ s : String, s.toList.take 10 ≠ "expected a".toList →
      some s ≠ some ("expected a software list, found " ++ kind) := by
    intro s hs h
    rw [Option.some.inj h] at hs
    simp at hs
  rw [softwareFault?]
  cases hr : TypedOperation.ofOperation o Kind.softwareList with
  | error e => exact hne _ (by simp)
  | ok typed =>
    obtain ⟨header, wanted, rfl⟩ :=
      (TypedOperation.fits_of_ofOperation hr).softwareUpdate.2
        (TypedOperation.kind_ofOperation hr)
    dsimp only
    split
    · split
      · simp
      · exact hne _ (by simp)
    · exact hne _ (by simp)
    · exact hne _ (by simp)

namespace HandlerTable

/-- No branch that only guards against a table, a form or a status that
cannot be is ever taken: not with the tables that are left of some
candidates when handlers are dropped, and not when updates are settled. -/
theorem isUnfailing_of_retained {cs : List Handler} {t t' : HandlerTable}
    (hv : verify cs = .ok t) (h : Retained t t') :
    t'.IsUnfailing
      ∧ (∀ o typed,
        TypedOperation.ofOperation o Kind.softwareList = .ok typed →
          ∃ header software, typed = .softwareUpdate header software)
      ∧ ∀ (pass : Pass) installed o kind, pass.fault? installed o
        ≠ some ("expected a software list, found " ++ kind) := by
  refine ⟨isUnfailing_of_isDispatching (h.isDispatching hv),
    fun o typed hr => ?_, fun pass installed o kind => ?_⟩
  · exact (TypedOperation.fits_of_ofOperation hr).softwareUpdate.2
      (TypedOperation.kind_ofOperation hr)
  · cases pass with
    | restarts => exact fun h => by cases h
    | software => exact Pass.softwareFault?_ne_other installed o kind

/-- A handler of restarts and one of updates. -/
def restartsAndUpdates : List Handler :=
  [RestartHandler.handler 0,
    { uid := 1, name := "updates", kinds := [Kind.softwareList] }]

/-- Their table. -/
def bothKinds : HandlerTable := (verify restartsAndUpdates).toOption.getD empty

/-- Their table when the handler of updates has not started. -/
def restartsOnly : HandlerTable := bothKinds.retain (·.uid = 0)

/-- A worker for restarts, on a platform that fails at the first poll and
at the first write. -/
def flakyRestart : WorkerSystem ScriptedPlatform :=
  let restart := (Operation.new "1").withFragment Kind.restart (.object [])
  { site := { world := { memory := {
      operations := [restart], failingPolls := 1, failingWrites := 1 } } }
    worker := .new restartsOnly (.ofMillis 100) }

/-- What such a worker does at a time. -/
def flakyAt (now : Nat) (s : WorkerSystem ScriptedPlatform) :
    WorkerSystem ScriptedPlatform :=
  (WorkerSystem.machine ScriptedPlatform.platform).settle 60
    { s with site := { s.site with now } }

/-- Two cycles fail, each for its fault, and the third executes the
restart. -/
theorem isUnfailing_restartsOnly :
    let s := flakyAt 200 (flakyAt 100 (flakyAt 0
      (flakyRestart.start?.getD flakyRestart)))
    verify restartsAndUpdates = .ok bothKinds
      ∧ Retained bothKinds restartsOnly
      ∧ restartsOnly.supportedKinds = [Kind.restart]
      ∧ restartsOnly.IsUnfailing
      ∧ Explained s.site.journal.events
      ∧ s.site.journal.count .pollErrors = 2
      ∧ s.site.journal.statuses "1" = [.executing, .successful]
      ∧ s.site.journal.executions "1" = 1 := by
  intro s
  have hv : verify restartsAndUpdates = .ok bothKinds := by decide
  have hkept : Retained bothKinds restartsOnly := .keep .refl _ ()
  have hun := (isUnfailing_of_retained hv hkept).1
  have hlater : ∀ {s records} now, WorkerSystem.Recorded
      ScriptedPlatform.platform restartsOnly (.ofMillis 100) s records →
      ∃ records', WorkerSystem.Recorded ScriptedPlatform.platform
        restartsOnly (.ofMillis 100) (flakyAt now s) records' :=
    fun now h => (h.aside (.clock now)).exists_of_runs
      (Machine.settle_runs 60 _)
  have hstart : WorkerSystem.Recorded ScriptedPlatform.platform restartsOnly
      (.ofMillis 100) (flakyRestart.start?.getD flakyRestart) [⟨0, []⟩] :=
    .start (.new rfl) rfl
  obtain ⟨_, h₀⟩ := hlater 0 hstart
  obtain ⟨_, h₁⟩ := hlater 100 h₀
  obtain ⟨records, h₂⟩ := hlater 200 h₁
  exact ⟨hv, hkept, by decide, hun, hun.explained h₂, by decide +kernel,
    by decide +kernel, by decide +kernel⟩

end HandlerTable

end RemoteOps
