/-
What a loop of a worker may do with the operations that it is handed, and
that it does nothing else.

* `Handling`: what may be done with an operation between two polls;
* `Lawful`: what may be done in all;
* `Doing.loopMove`: a step of a loop keeps to what may be done.
-/
import Mathlib.Data.List.Chain
import RemoteOps.Proofs.Worker.InHand

namespace RemoteOps

/-! ### Deeds -/

/-- What a loop does. -/
inductive Deed where
  /-- It has asked something of the platform. -/
  | asked (e : Event)
  /-- It makes a call of a handler, under the number of that call. -/
  | called (n : Nat) (h : Handler) (t : TypedOperation)

namespace Deed

/-- It has fetched an operation. -/
abbrev handed (o : Operation) : Deed := asked (.poll (.ok (some o)))

/-- The status that was sent to the platform, whatever it answered. -/
def sent? : Deed → Option Status
  | asked (.status _ status _ _) => some status
  | _ => none

/-- What was asked of the platform. -/
def asked? : Deed → Option Event
  | asked e => some e
  | called .. => none

/-- What the handler's part in a call is. -/
def execution? : Deed → Option Event
  | asked _ => none
  | called _ h t => some (.execute h t)

end Deed

/-- The handler's part in a call. -/
def HandlerCall.execution (c : HandlerCall) : Event :=
  .execute c.handler c.operation

/-- Whether a call has taken its first step, if only to be cut off. -/
def HandlerCall.hasBegun (c : HandlerCall) : Bool :=
  match c.phase with
  | .spawned => false
  | .running _ _ | .ended _ => true

/-- The statuses that were sent, the oldest first. -/
def sentStatuses (l : List Deed) : List Status := l.filterMap Deed.sent?

/-- What may be done with an operation after it was handed out. -/
structure Handling (table : HandlerTable) (o : Operation) (l : List Deed) :
    Prop where
  /-- Nothing is asked but to write this operation. -/
  own : ∀ e, .asked e ∈ l → ∃ status reason r,
    e = .status o.id status reason r
  /-- From the status that it was handed out with, the statuses that are
  sent follow the life cycle. -/
  path : (o.status :: sentStatuses l).IsChain
    fun a b => a.canBecome b = true
  /-- Only the owner of its kind is called, only if it was handed out as
  pending, and right after the platform has accepted the claim. -/
  called : ∀ l₁ n h t l₂, l = l₁ ++ .called n h t :: l₂ →
    Dispatched table o t h ∧ ∃ l₀ reason,
      l₁ = l₀ ++ [.asked (.status o.id .executing reason (.ok ()))]
  /-- If it was done already, it is left alone. -/
  final : o.status.isTerminal = true → l = []

/-- A record of operations that were handed out, each with what may be
done with it. -/
inductive Lawful (table : HandlerTable) : List Deed → Prop where
  | nil : Lawful table []
  /-- Nothing was handed out. -/
  | fetched {l : List Deed} {r : Except Failure (Option Operation)}
    (h : Lawful table l) (hr : ∀ o, r ≠ .ok (some o)) :
    Lawful table (l ++ [.asked (.poll r)])
  | handled {l l' : List Deed} {o : Operation} (h : Lawful table l)
    (h' : Handling table o l') : Lawful table (l ++ .handed o :: l')

/-! ### What may be done -/

/-- The status that an operation has come to, if every write was
accepted. -/
def reached (o : Operation) (l : List Deed) : Status :=
  (sentStatuses l).getLast?.getD o.status

section Handling

variable {table : HandlerTable} {o : Operation} {l : List Deed}

@[simp]
lemma reached_nil (o : Operation) : reached o [] = o.status := rfl

@[simp]
lemma reached_write (o : Operation) (l : List Deed) (id : String)
    (status : Status) (reason : Option String) (r : Except Failure Unit) :
    reached o (l ++ [.asked (.status id status reason r)]) = status := by
  simp [reached, sentStatuses, Deed.sent?]

@[simp]
lemma reached_called (o : Operation) (l : List Deed) (n : Nat) (h : Handler)
    (t : TypedOperation) :
    reached o (l ++ [.called n h t]) = reached o l := by
  simp [reached, sentStatuses, Deed.sent?]

lemma handling_nil (table : HandlerTable) (o : Operation) :
    Handling table o [] where
  own _ h := by cases h
  path := .singleton _
  called l₁ n h t l₂ heq := by simp at heq
  final _ := rfl

/-- A status may be sent that follows on the one that was reached. -/
lemma Handling.write (h : Handling table o l) {status : Status}
    (hs : (reached o l).canBecome status = true) (reason : Option String)
    (r : Except Failure Unit) :
    Handling table o (l ++ [.asked (.status o.id status reason r)]) where
  own e he := by
    rcases List.mem_append.1 he with he | he
    · exact h.own e he
    · exact ⟨status, reason, r, Deed.asked.inj (List.mem_singleton.1 he)⟩
  path := by
    have hsent : sentStatuses (l ++ [.asked (.status o.id status reason r)])
        = sentStatuses l ++ [status] := by simp [sentStatuses, Deed.sent?]
    rw [hsent, ← List.cons_append, List.isChain_append]
    refine ⟨h.path, .singleton _, fun a ha b hb => ?_⟩
    rw [List.getLast?_cons, Option.mem_some_iff] at ha
    rw [List.head?_cons, Option.mem_some_iff] at hb
    exact ha ▸ hb ▸ hs
  called l₁ n hd t l₂ heq := by
    rcases concat_eq_append_cons heq with ⟨-, hne, -⟩ | ⟨l₃, -, heq⟩
    · cases hne
    · exact h.called l₁ n hd t l₃ heq
  final ht := by
    rw [h.final ht, reached_nil, Status.canBecome_isTerminal ht] at hs
    cases hs

/-- The owner may be called when the claim was accepted. -/
lemma Handling.call {reason : Option String} (h : Handling table o
      (l ++ [.asked (.status o.id .executing reason (.ok ()))]))
    {hd : Handler} {t : TypedOperation} (hdis : Dispatched table o t hd)
    (n : Nat) : Handling table o
      (l ++ [.asked (.status o.id .executing reason (.ok ()))]
        ++ [.called n hd t]) where
  own e he := by
    rcases List.mem_append.1 he with he | he
    · exact h.own e he
    · cases List.mem_singleton.1 he
  path := by
    have hsent : ∀ l', sentStatuses (l' ++ [.called n hd t])
        = sentStatuses l' := fun l' => by simp [sentStatuses, Deed.sent?]
    rw [hsent]
    exact h.path
  called l₁ m hd' t' l₂ heq := by
    rcases concat_eq_append_cons heq with ⟨-, heq, hl⟩ | ⟨l₃, -, heq⟩
    · cases heq
      exact ⟨hdis, l, reason, hl.symm⟩
    · exact h.called l₁ m hd' t' l₃ heq
  final ht := by
    rw [hdis.pending] at ht
    cases ht

end Handling

/-! ### The phases of a loop -/

/-- A loop has an operation in hand, with which it has done what it
may. -/
def HasInHand (table : HandlerTable) (deeds : List Deed) (o : Operation)
    (l : List Deed) : Prop :=
  Handling table o l
    ∧ ∃ before, Lawful table before ∧ deeds = before ++ .handed o :: l

/-- What a loop in a phase has done. -/
def Doing (table : HandlerTable) (deeds : List Deed) : LoopPhase → Prop
  | .rejecting o' _ | .reporting o' _ => ∃ o l, HasInHand table deeds o l
    ∧ o'.id = o.id ∧ (reached o l).canBecome o'.status = true
  | .claiming o' t h _ => ∃ o, HasInHand table deeds o []
    ∧ Dispatched table o t h ∧ o' = { o with status := .executing }
  | .executing o' _ => ∃ o l, HasInHand table deeds o l ∧ o'.id = o.id
    ∧ o'.status = .executing ∧ reached o l = .executing
  | .spawned | .polling _ | .idle _ | .exited => Lawful table deeds

/-- The operation whose write is under way. -/
def LoopPhase.sending? : LoopPhase → Option Operation
  | .rejecting o _ | .claiming o _ _ _ | .reporting o _ => some o
  | .spawned | .polling _ | .executing _ _ | .idle _ | .exited => none

section Doing

variable {table : HandlerTable} {deeds : List Deed} {phase : LoopPhase}
  {o : Operation} {l : List Deed}

lemma HasInHand.lawful (h : HasInHand table deeds o l) :
    Lawful table deeds := by
  obtain ⟨hl, before, hb, rfl⟩ := h
  exact hb.handled hl

lemma Lawful.handed (h : Lawful table deeds) (o : Operation) :
    HasInHand table (deeds ++ [.handed o]) o [] :=
  ⟨handling_nil table o, deeds, h, rfl⟩

lemma HasInHand.write (h : HasInHand table deeds o l) {status : Status}
    (hs : (reached o l).canBecome status = true) (reason : Option String)
    (r : Except Failure Unit) :
    HasInHand table (deeds ++ [.asked (.status o.id status reason r)]) o
      (l ++ [.asked (.status o.id status reason r)]) := by
  obtain ⟨hl, before, hb, rfl⟩ := h
  exact ⟨hl.write hs reason r, before, hb, by simp⟩

/-- Whatever a loop is doing, its record is lawful. -/
lemma Doing.lawful (h : Doing table deeds phase) : Lawful table deeds := by
  cases phase with
  | rejecting | reporting | executing =>
    obtain ⟨o, l, hin, -⟩ := h
    exact hin.lawful
  | claiming =>
    obtain ⟨o, hin, -⟩ := h
    exact hin.lawful
  | spawned | polling | idle | exited => exact h

/-- A loop that holds no operation has a lawful record. -/
lemma doing_of_isFree (hf : phase.IsFree) (h : Lawful table deeds) :
    Doing table deeds phase := by
  cases phase with
  | rejecting | reporting | executing | claiming => exact hf.elim
  | spawned | polling | idle | exited => exact h

/-- So it is with the write that is under way, whatever the answer to
it. -/
lemma Doing.sending (h : Doing table deeds phase)
    (ho : phase.sending? = some o) (r : Except Failure Unit) :
    Lawful table
      (deeds ++ [.asked (.status o.id o.status o.failureReason r)]) := by
  cases phase with
  | rejecting | reporting =>
    obtain ⟨o₀, l, hin, hid, hs⟩ := h
    obtain rfl := Option.some.inj ho
    rw [hid]
    exact (hin.write hs _ r).lawful
  | claiming o' =>
    obtain ⟨o₀, hin, hd, rfl⟩ := h
    obtain rfl := Option.some.inj ho
    have hs : (reached o₀ []).canBecome .executing = true := by
      rw [reached_nil, hd.pending]
      rfl
    exact (hin.write hs _ r).lawful
  | spawned | polling | executing | idle | exited => cases ho

end Doing

/-! ### Steps of a loop -/

namespace Worker

variable {σ : Type} {p : Platform σ} {s s' : Site σ} {w w' : Worker}
  {i : Nat} {l : PollLoop}

/-- The calls of handlers that are new. -/
def callsSince (w w' : Worker) : List Deed :=
  ((w'.calls.drop w.calls.length).zipIdx w.calls.length).map fun c =>
    .called c.2 c.1.handler c.1.operation

lemma callsSince_eq_nil (h : w'.calls = w.calls) :
    callsSince w w' = [] := by
  simp [callsSince, h]

lemma callsSince_of_append {c : HandlerCall}
    (h : w'.calls = w.calls ++ [c]) :
    callsSince w w' = [.called w.calls.length c.handler c.operation] := by
  simp [callsSince, h]

/-- New calls of handlers ask nothing of the platform. -/
lemma filterMap_callsSince {added : List HandlerCall}
    (h : w'.calls = w.calls ++ added) :
    (callsSince w w').filterMap Deed.asked? = []
      ∧ (callsSince w w').filterMap Deed.execution?
        = added.map HandlerCall.execution := by
  have hdrop : w'.calls.drop w.calls.length = added := by
    rw [h, List.drop_left]
  rw [callsSince, hdrop, List.filterMap_map, List.filterMap_map]
  refine ⟨List.filterMap_eq_nil_iff.2 fun _ _ => rfl, ?_⟩
  have hfst : Deed.execution? ∘ (fun c : HandlerCall × Nat =>
      Deed.called c.2 c.1.handler c.1.operation)
        = some ∘ (HandlerCall.execution ∘ Prod.fst) := rfl
  rw [hfst, List.filterMap_eq_map, ← List.map_map, List.zipIdx_map_fst]

/-- Only an operation that may fail is rejected. -/
lemma canBecome_of_dispatch {o o' : Operation} {due : Nat}
    (h : (dispatch p s w o).2 = .rejecting o' due) :
    o.status.canBecome .failed = true := by
  have hreject : ∀ reason, (reject p s w o reason).2 = .rejecting o' due →
      o.status.canBecome .failed = true := by
    intro reason h
    rw [reject] at h
    split at h
    · next hf => exact (Operation.fail_eq_ok_iff.1 hf).1
    · cases h
  rw [dispatch] at h
  split at h
  · exact hreject _ h
  · split at h
    · exact hreject _ h
    · split at h <;> cases h

/-- A loop that comes to reject an operation was handed one that may
fail. -/
lemma canBecome_of_stepLoop {due : Nat} {o o' : Operation} {due' : Nat}
    (hs : stepLoop p s w i = some (s', w')) (hl : w.loops[i]? = some l)
    (hph : l.phase = .polling due)
    (hph' : w'.phases[i]? = some (.rejecting o' due'))
    (hc : s'.journal.calls = s.journal.calls ++ [.poll (.ok (some o))]) :
    o.status.canBecome .failed = true := by
  have hlt : i < w.phases.length := by
    rw [phases, List.length_map]
    exact (List.getElem?_eq_some_iff.1 hl).1
  have hpoll : (s.poll p).1 = .ok (some o) :=
    congrArg Prod.fst (answers_stepLoop hs hc).of_poll
  rw [stepLoop, hl] at hs
  dsimp only at hs
  split at hs
  · cases hs
  · split at hs
    · cases hs
      rw [phases_setLoop, List.getElem?_set_self hlt] at hph'
      cases hph'
    · simp only [runLoop, hph, hpoll] at hs
      split at hs
      · cases hs
        rw [phases_setLoop, List.getElem?_set_self hlt,
          Option.some.injEq] at hph'
        exact canBecome_of_dispatch hph'
      · cases hs

/-- What a call has come to may follow on the claim. -/
lemma canBecome_report (r : Option Outcome) :
    Status.canBecome .executing (report r).status = true := by
  unfold report
  split <;> rfl

end Worker

/-- A move of a loop goes on with what it does. -/
theorem Doing.loopMove {deeds : List Deed} {w w₁ : Worker}
    {ph ph' : LoopPhase} {new : List Event} (hm : LoopMove w ph new w₁ ph')
    (h : Doing w.table deeds ph)
    (hrej : ∀ due o o' due', ph = .polling due → ph' = .rejecting o' due' →
      new = [.poll (.ok (some o))] → o.status.canBecome .failed = true) :
    Doing w.table (deeds ++ (new.map .asked ++ Worker.callsSince w w₁))
      ph' := by
  have hnone : ∀ w' : Worker, w'.calls = w.calls → ∀ es : List Event,
      deeds ++ (es.map .asked ++ Worker.callsSince w w')
        = deeds ++ es.map .asked := fun w' hw es => by
    rw [Worker.callsSince_eq_nil hw, List.append_nil]
  cases hm with
  | begin hr | wake hr =>
    rw [hnone w rfl, List.map_nil, List.append_nil]
    exact doing_of_isFree hr.isFree h
  | pollFailed | nothing =>
    rw [hnone w rfl]
    exact h.fetched fun _ => by simp
  | @refuse _ _ o =>
    rw [hnone w rfl]
    exact (h.handed o).lawful
  | @reject due _ o _ hc =>
    rw [hnone w rfl]
    exact ⟨o, [], h.handed o, rfl, hrej due o _ _ rfl rfl rfl⟩
  | @accept _ _ o _ _ hd =>
    rw [hnone w rfl]
    exact ⟨o, h.handed o, hd, rfl⟩
  | rejected he | reported he =>
    rw [hnone w rfl]
    exact doing_of_isFree he.isFree (h.sending rfl _)
  | unclaimed =>
    rw [hnone w rfl]
    exact h.sending rfl _
  | @claimed _ o t hd =>
    obtain ⟨o, ⟨hl, before, hb, rfl⟩, hdis, rfl⟩ := h
    have hs : (reached o []).canBecome .executing = true := by
      rw [reached_nil, hdis.pending]
      rfl
    have hcalls : (w.spawnCall hd t).calls
        = w.calls ++ [{ handler := hd, operation := t }] := rfl
    rw [Worker.callsSince_of_append hcalls]
    have hclaim := hl.write hs o.failureReason (.ok ())
    exact ⟨o, _, ⟨hclaim.call hdis w.calls.length, before, hb, by simp⟩, rfl,
      rfl, by rw [reached_called, reached_write]⟩
  | @conclude o' n r _ _ hc =>
    rw [hnone { w with inFlight := none } rfl, List.map_nil, List.append_nil]
    obtain ⟨o, l, hin, hid, hex, hreach⟩ := h
    obtain ⟨due, rfl⟩ := hc.2 hex
    exact ⟨o, l, hin, hid, hreach ▸ Worker.canBecome_report r⟩

end RemoteOps
