/-
Which reasons are sent to the platform along with a status.

A failure is sent with a reason or without one, and a claim with the
reason with which the operation was handed out.  Nothing else that a
worker sends has a reason, whoever calls it and whatever the platform
answers.

* `ReasonsKept`: the calls in which reasons are sent in this way only;
* `ReasonRule`: what these calls show;
* `LoopPhase.MindsReasons`: what a loop holds has the reason that it is
  to send;
* `LoopMove.reasons`, `KeepsReasons.stepLoop`: a step of a loop keeps to
  this;
* `WorkerSystem.Recorded.keepsReasons`: so does a run of a worker.
-/
import RemoteOps.Proofs.Worker.Records

namespace RemoteOps

/-! ### Calls with reasons -/

/-- The status that an event sends to the platform, with its reason. -/
def Event.sent? : Event → Option (Status × Option String)
  | .status _ next reason _ => some (next, reason)
  | .update o _ => some (o.status, o.failureReason)
  | .poll _ | .query .. | .publish .. | .installed _ | .execute ..
  | .finish .. | .start _ | .started _ | .stop _ | .stopped _
  | .counted _ | .returned _ => none

/-- A reason goes with a failure only.  Claims are a matter of their
own. -/
def Status.GoesWith (status : Status) (reason : Option String) : Prop :=
  status = .failed ∨ status ≠ .executing ∧ reason = none

/-- Nothing is sent but with a reason that goes with it. -/
def Event.IsPlain (e : Event) : Prop :=
  ∀ status reason, e.sent? = some (status, reason) → status.GoesWith reason

lemma Event.isPlain_of_sent? {e : Event} (h : e.sent? = none) :
    e.IsPlain := by
  intro status reason hs
  rw [h] at hs
  cases hs

/-- Calls in which a reason is sent only with a failure, or with a claim
that has the reason with which the operation was handed out before. -/
inductive ReasonsKept : List Event → Prop where
  | nil : ReasonsKept []
  | plain {es : List Event} {e : Event} (h : ReasonsKept es)
    (he : e.IsPlain) : ReasonsKept (es ++ [e])
  | claim {es : List Event} {o : Operation} {r : Except Failure Unit}
    (h : ReasonsKept es) (ho : .poll (.ok (some o)) ∈ es)
    (hp : o.status = .pending) :
    ReasonsKept (es ++ [.status o.id .executing o.failureReason r])

namespace ReasonsKept

variable {es es' : List Event}

lemma append (h : ReasonsKept es) (hes : ∀ e ∈ es', e.IsPlain) :
    ReasonsKept (es ++ es') := by
  induction es' generalizing es with
  | nil => rwa [List.append_nil]
  | cons e es' ih =>
    obtain ⟨he, hes⟩ := List.forall_mem_cons.1 hes
    rw [← List.singleton_append, ← List.append_assoc]
    exact ih (h.plain he) hes

/-- What is sent is a failure, a claim, or has no reason. -/
lemma sent (h : ReasonsKept es) : ∀ e ∈ es, ∀ status reason,
    e.sent? = some (status, reason) →
      status = .failed ∨ status = .executing ∨ reason = none := by
  induction h with
  | nil => exact List.forall_mem_nil _
  | plain _ he ih =>
    refine List.forall_mem_append.2 ⟨ih, List.forall_mem_singleton.2 ?_⟩
    exact fun status reason hs => (he status reason hs).imp_right fun h =>
      .inr h.2
  | claim _ _ _ ih =>
    refine List.forall_mem_append.2 ⟨ih, List.forall_mem_singleton.2 ?_⟩
    exact fun status reason hs => .inr (.inl (by cases hs; rfl))

/-- A claim has the reason with which its operation was handed out. -/
lemma claims (h : ReasonsKept es) {pre post : List Event} {e : Event}
    {reason : Option String} (heq : es = pre ++ e :: post)
    (hs : e.sent? = some (.executing, reason)) :
    ∃ o r, .poll (.ok (some o)) ∈ pre ∧ o.status = .pending
      ∧ o.failureReason = reason
      ∧ e = .status o.id .executing reason r := by
  induction h generalizing post with
  | nil => simp at heq
  | plain _ he ih =>
    rcases concat_eq_append_cons heq with ⟨-, rfl, -⟩ | ⟨post, -, heq⟩
    · rcases he _ _ hs with h | ⟨h, -⟩
      · cases h
      · exact absurd rfl h
    · exact ih heq
  | @claim _ o r _ ho hp ih =>
    rcases concat_eq_append_cons heq with ⟨-, rfl, rfl⟩ | ⟨post, -, heq⟩
    · obtain rfl : o.failureReason = reason :=
        congrArg Prod.snd (Option.some.inj hs)
      exact ⟨o, r, ho, hp, rfl, rfl⟩
    · exact ih heq

end ReasonsKept

/-- An operation was claimed with the reason with which it was handed
out. -/
def Claimed (es : List Event) (o : Operation) : Prop :=
  ∃ pre r post,
    es = pre ++ .status o.id .executing o.failureReason r :: post
      ∧ .poll (.ok (some o)) ∈ pre ∧ o.status = .pending

/-- Which reasons are sent, among some calls. -/
structure ReasonRule (es : List Event) : Prop where
  /-- What is sent is a failure, a claim, or has no reason. -/
  sent : ∀ e ∈ es, ∀ status reason, e.sent? = some (status, reason) →
    status = .failed ∨ status = .executing ∨ reason = none
  /-- A claim is of an operation that was handed out before as pending, and
  has the reason with which it was handed out. -/
  claims : ∀ pre e post reason, es = pre ++ e :: post →
    e.sent? = some (.executing, reason) →
      ∃ o r, .poll (.ok (some o)) ∈ pre ∧ o.status = .pending
        ∧ o.failureReason = reason
        ∧ e = .status o.id .executing reason r
  /-- Reasons are sent with failures only, exactly if no operation was
  claimed that was handed out with one. -/
  clean : (∀ e ∈ es, ∀ status reason, e.sent? = some (status, reason) →
      status ≠ .failed → reason = none)
    ↔ ∀ o, Claimed es o → o.failureReason = none

lemma ReasonsKept.rule {es : List Event} (h : ReasonsKept es) :
    ReasonRule es where
  sent := h.sent
  claims _ _ _ _ := h.claims
  clean := by
    constructor
    · rintro hclean o ⟨pre, r, post, rfl, -, -⟩
      refine hclean _ (List.mem_append_right _ (List.mem_cons_self ..))
        .executing _ rfl ?_
      exact Status.noConfusion
    · intro hclaims e he status reason hs hne
      obtain rfl | rfl | hnone := h.sent e he status reason hs
      · exact absurd rfl hne
      · obtain ⟨pre, post, rfl⟩ := List.append_of_mem he
        obtain ⟨o, r, ho, hp, rfl, rfl⟩ := h.claims rfl hs
        exact hclaims o ⟨pre, r, post, rfl, ho, hp⟩
      · exact hnone

/-! ### Phases of a loop -/

/-- What a loop holds has the reason that it is to send. -/
def LoopPhase.MindsReasons (es : List Event) : LoopPhase → Prop
  | .rejecting o _ => o.status = .failed
  | .claiming o _ _ _ => ∃ o₀, .poll (.ok (some o₀)) ∈ es
    ∧ o₀.status = .pending ∧ o = { o₀ with status := .executing }
  | .executing o _ => o.status = .executing
  | .reporting o _ => o.status.GoesWith o.failureReason
  | .spawned | .polling _ | .idle _ | .exited => True

section Steps

variable {es es' : List Event} {phase phase' : LoopPhase} {w w₁ : Worker}
  {new : List Event} {o : Operation}

lemma LoopPhase.MindsReasons.append (h : phase.MindsReasons es)
    (es' : List Event) : phase.MindsReasons (es ++ es') := by
  cases phase with
  | claiming o t hd due =>
    obtain ⟨o₀, ho, hp, rfl⟩ := h
    exact ⟨o₀, List.mem_append_left _ ho, hp, rfl⟩
  | _ => exact h

lemma LoopPhase.IsFree.mindsReasons (h : phase.IsFree) (es : List Event) :
    phase.MindsReasons es := by
  cases phase with
  | rejecting | claiming | executing | reporting => exact h.elim
  | spawned | polling | idle | exited => trivial

/-- What has come of a call has a reason only if it is a failure. -/
lemma goesWith_report (r : Option Outcome) :
    (report r).status.GoesWith (report r).reason := by
  by_cases hf : (report r).status = .failed
  · exact .inl hf
  · refine .inr ⟨fun he => ?_, report_reason hf⟩
    have hterminal := report_isTerminal r
    rw [he] at hterminal
    cases hterminal

lemma ReasonsKept.write (h : ReasonsKept es)
    (ho : o.status.GoesWith o.failureReason) (r : Except Failure Unit) :
    ReasonsKept (es ++ [.status o.id o.status o.failureReason r]) := by
  refine h.plain fun status reason hs => ?_
  obtain ⟨rfl, rfl⟩ := Prod.mk.inj (Option.some.inj hs)
  exact ho

/-- A move of a loop sends the reason that it is to send, and minds that
of what it holds then. -/
theorem LoopMove.reasons (hm : LoopMove w phase new w₁ phase')
    (h : ReasonsKept es) (hph : phase.MindsReasons es) :
    ReasonsKept (es ++ new) ∧ phase'.MindsReasons (es ++ new) := by
  have hquiet : ∀ r, ReasonsKept (es ++ [.poll r]) := fun r =>
    h.plain (Event.isPlain_of_sent? rfl)
  cases hm with
  | begin hr | wake hr =>
    rw [List.append_nil]
    exact ⟨h, hr.isFree.mindsReasons es⟩
  | pollFailed | nothing | refuse => exact ⟨hquiet _, trivial⟩
  | reject => exact ⟨hquiet _, rfl⟩
  | @accept _ _ o _ _ hd =>
    exact ⟨hquiet _, o, List.mem_append_right _ (List.mem_singleton_self _),
      hd.pending, rfl⟩
  | rejected he =>
    exact ⟨h.write (.inl hph) _, he.isFree.mindsReasons _⟩
  | claimed | unclaimed =>
    obtain ⟨o₀, ho, hp, rfl⟩ := hph
    exact ⟨ReasonsKept.claim (o := o₀) h ho hp, by trivial⟩
  | conclude _ hc =>
    rw [List.append_nil]
    obtain ⟨due, rfl⟩ := hc.2 hph
    exact ⟨h, goesWith_report _⟩
  | reported he => exact ⟨h.write hph _, he.isFree.mindsReasons _⟩

end Steps

/-! ### Workers -/

/-- Reasons were sent as they should be, and each loop minds those of what
it holds. -/
structure KeepsReasons (phases : List LoopPhase) (es : List Event) :
    Prop where
  kept : ReasonsKept es
  minds : ∀ phase ∈ phases, phase.MindsReasons es

namespace KeepsReasons

variable {σ : Type} {p : Platform σ} {s s' : Site σ} {w w' : Worker}
  {i : Nat} {phases : List LoopPhase} {es es' : List Event}

/-- What is plain may be sent by others. -/
lemma append (h : KeepsReasons phases es) (hes : ∀ e ∈ es', e.IsPlain) :
    KeepsReasons phases (es ++ es') :=
  ⟨h.kept.append hes, fun ph hph => (h.minds ph hph).append es'⟩

lemma set {phase : LoopPhase} (h : KeepsReasons phases es)
    (hkept : ReasonsKept (es ++ es'))
    (hph : phase.MindsReasons (es ++ es')) :
    KeepsReasons (phases.set i phase) (es ++ es') := by
  have hminds : ∀ ph ∈ phases, ph.MindsReasons (es ++ es') :=
    fun ph hmem => (h.minds ph hmem).append es'
  exact ⟨hkept, forall_mem_set hminds hph _⟩

/-- A loop is started. -/
lemma start (h : KeepsReasons phases es) :
    KeepsReasons (phases ++ [.spawned]) es :=
  ⟨h.kept, List.forall_mem_append.2
    ⟨h.minds, List.forall_mem_singleton.2 trivial⟩⟩

lemma stepLoop (h : KeepsReasons w.phases s.journal.calls)
    (hs : Worker.stepLoop p s w i = some (s', w')) :
    KeepsReasons w'.phases s'.journal.calls := by
  obtain ⟨l, hl, -, hcases⟩ := Worker.stepLoop_cases hs
  have hmem := List.mem_of_getElem? (Worker.phases_getElem? hl)
  rcases hcases with ⟨-, rfl, rfl⟩ | ⟨-, new, w₁, seen, phase, hm, hg, -, rfl⟩
  · have hkept : ReasonsKept (s'.journal.calls ++ []) := by
      rw [List.append_nil]
      exact h.kept
    have h' : KeepsReasons (w.phases.set i .exited) _ := h.set hkept trivial
    rwa [List.append_nil, ← Worker.phases_setLoop w i l] at h'
  · obtain ⟨hkept, hph⟩ := hm.reasons h.kept (h.minds _ hmem)
    rw [hg.calls, Worker.phases_setLoop, Worker.phases,
      (Worker.loops_of_loopMove hm).1]
    exact h.set hkept hph

lemma stepCall (h : KeepsReasons w.phases s.journal.calls)
    (hs : Worker.stepCall p s w i = some (s', w')) :
    KeepsReasons w'.phases s'.journal.calls := by
  obtain ⟨c, new, ph, -, hm, hg, rfl⟩ := Worker.stepCall_cases hs
  rw [hg.calls]
  refine (h.append fun e he => ?_ : KeepsReasons w.phases _)
  cases hm with
  | begin =>
    rw [List.mem_singleton.1 he]
    exact Event.isPlain_of_sent? rfl
  | cut | finish => cases he

end KeepsReasons

/-- In a run of a worker reasons are sent as they should be. -/
theorem WorkerSystem.Recorded.keepsReasons {σ : Type} {p : Platform σ}
    {table : HandlerTable} {interval : Span} {s : WorkerSystem σ}
    {records : List LoopRecord}
    (h : Recorded p table interval s records) :
    KeepsReasons s.worker.phases s.site.journal.calls := by
  induction h with
  | new hj => exact ⟨by rw [hj]; exact .nil, List.forall_mem_nil _⟩
  | start _ hs ih =>
    obtain ⟨w, hw, rfl⟩ := Option.map_eq_some_iff.1 hs
    show KeepsReasons w.phases _
    rw [(Worker.tasks_start? hw).2.1]
    exact ih.start
  | loop _ hs _ ih => exact ih.stepLoop hs
  | call _ hs ih => exact ih.stepCall hs
  | aside _ hs ih =>
    obtain ⟨hsame, hcalls⟩ := hs.same
    rw [hsame.phases, hcalls]
    exact ih

end RemoteOps
