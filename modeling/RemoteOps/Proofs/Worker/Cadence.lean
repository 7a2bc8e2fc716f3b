/-
When a worker polls, as long as nobody tells it to stop or to abort.

After a cycle that has processed an operation the next poll starts at the
instant at which the cycle has ended.  After every other cycle the loop
waits first, for the interval of the worker, raised to the shortest one,
in whole milliseconds and at most for the longest wait of the clock.

* `Beat`, `Beat.Follows`: when polls start and cycles end, and how they
  follow one another;
* `WorkerSystem.Running`: the states of a worker after a start, with the
  beats of its loop;
* `WorkerSystem.Alone`, `WorkerSystem.Running.turn`: nobody but the loop
  and the calls of handlers takes a step;
* `WorkerSystem.OnBeat`, `WorkerSystem.Running.onBeat`: the invariant;
* `WorkerSystem.Cadence`, `WorkerSystem.cadence_of_running`: the beats of
  every run, and that the next poll does start.
-/
import Mathlib.Data.List.Chain
import RemoteOps.Proofs.Inevitable
import RemoteOps.Proofs.Worker.GracefulStop

namespace RemoteOps

/-! ### Beats -/

/-- What can be told of the cycles of a loop: that a poll starts, and that
a cycle ends, be it that it has processed an operation or not. -/
inductive Beat where
  | polls (t : Nat)
  | ends (t : Nat) (processed : Bool)
deriving DecidableEq, Repr

/-- What a loop shows when it comes from one phase to another one.  It goes
on to the next poll if it has processed an operation. -/
def LoopPhase.beats (t : Nat) : LoopPhase → LoopPhase → List Beat
  | .spawned, .polling _ | .idle _, .polling _ => [.polls t]
  | .rejecting _ _, .polling _ | .reporting _ _, .polling _ =>
    [.ends t true, .polls t]
  | .polling _, .idle _ | .rejecting _ _, .idle _ | .claiming _ _ _ _, .idle _
  | .executing _ _, .idle _ | .reporting _ _, .idle _ => [.ends t false]
  | _, _ => []

/-- How long a loop waits after a cycle that has processed nothing, in
milliseconds. -/
def Worker.restTime (interval : Span) : Nat :=
  min (interval.max minInterval).ceilMillis Clock.longestWait

namespace Beat

/-- How beats follow one another, where `wait` is the time between the end
of a cycle that has processed nothing and the next poll. -/
inductive Follows (wait : Nat) : Beat → Beat → Prop where
  | cycle {t t' : Nat} {processed : Bool} (h : t ≤ t') :
    Follows wait (.polls t) (.ends t' processed)
  | rest {t : Nat} : Follows wait (.ends t false) (.polls (t + wait))
  | drain {t : Nat} : Follows wait (.ends t true) (.polls t)

lemma Follows.eq_add {wait t t' : Nat}
    (h : Follows wait (.ends t false) (.polls t')) : t' = t + wait := by
  cases h
  rfl

end Beat

lemma LoopPhase.beats_self (t : Nat) (ph : LoopPhase) :
    ph.beats t ph = [] := by
  cases ph <;> rfl

/-! ### How cycles end -/

/-- A call that ends a cycle, since it has brought nothing or has
failed. -/
def Event.ends : Event → Bool
  | .poll (.ok none) | .poll (.error _) | .status _ _ _ (.error _) => true
  | _ => false

/-- The call by which a cycle ends that has processed an operation. -/
def Event.completes : Event → Bool
  | .status _ st _ (.ok _) => st.isTerminal
  | _ => false

def Event.isPoll : Event → Bool
  | .poll _ => true
  | _ => false

def Beat.isPoll : Beat → Bool
  | .polls _ => true
  | .ends _ _ => false

/-- How many polls have started that are not answered. -/
def LoopPhase.asked : LoopPhase → Nat
  | .polling _ => 1
  | _ => 0

/-- How the beats of a loop that comes from one phase to another one go
with the calls that it makes on the way. -/
structure LoopPhase.Shows (t : Nat) (new : List Event)
    (ph ph' : LoopPhase) : Prop where
  /-- A cycle ends with a call that brings nothing or fails. -/
  fails : new.any Event.ends = true → ph.beats t ph' = [.ends t false]
  /-- It has processed an operation when a terminal status is written. -/
  completes : new.any Event.completes = true ↔
    ph.beats t ph' = [.ends t true, .polls t]
  /-- Every poll that is answered has started, and has a beat of its own. -/
  polls : (ph.beats t ph').countP Beat.isPoll + ph.asked
    = new.countP Event.isPoll + ph'.asked

/-- A loop that stays where it is shows nothing. -/
lemma LoopPhase.shows_self {new : List Event} (t : Nat) (ph : LoopPhase)
    (hends : new.any Event.ends = false)
    (hcompletes : new.any Event.completes = false)
    (hpolls : new.countP Event.isPoll = 0) : ph.Shows t new ph where
  fails h := by
    rw [hends] at h
    cases h
  completes := by
    rw [hcompletes, ph.beats_self]
    simp
  polls := by
    rw [hpolls, ph.beats_self]
    rfl

/-- The beats of a move of a loop, by the answers that it gets. -/
lemma LoopMove.countP_beats {w w₁ : Worker} {new : List Event}
    {ph ph' : LoopPhase} (hm : LoopMove w ph new w₁ ph') (t : Nat) :
    (ph.beats t ph').countP Beat.isPoll + ph.asked
      = new.countP Event.isPoll + ph'.asked := by
  cases hm with
  | begin hr | wake hr =>
    rcases hr with ⟨-, due, rfl⟩ | ⟨-, rfl⟩ <;> rfl
  | pollFailed | nothing | refuse | reject | accept | claimed
  | unclaimed => rfl
  | @rejected _ _ _ r hr | @reported _ _ _ r hr =>
    cases r with
    | error e =>
      obtain ⟨due, rfl⟩ := hr
      rfl
    | ok u => rcases hr with ⟨-, due, rfl⟩ | ⟨-, rfl⟩ <;> rfl
  | conclude _ hc =>
    rcases hc.1 with ⟨o', due, rfl⟩ | ⟨due, rfl⟩ <;> rfl

/-- The beats of a move of a loop, by the calls that it makes. -/
lemma LoopMove.beats_eq {w w₁ : Worker} {calls : List HandlerCall}
    {cur new : List Event} {ph ph' : LoopPhase}
    (hm : LoopMove w ph new w₁ ph') (hin : InCycle w.table calls cur ph)
    (hrun : w.running = true) (t : Nat) :
    (new.any Event.ends = true → ph.beats t ph' = [.ends t false])
      ∧ (new.any Event.completes = true ↔
        ph.beats t ph' = [.ends t true, .polls t]) := by
  have hlast : ∀ (o : Operation) (r : Except Failure Unit),
      o.status.isTerminal = true → w.Ends r ph' →
      (∀ due, ph' = .idle due → ph.beats t ph' = [.ends t false]) →
      (∀ due, ph' = .polling due →
        ph.beats t ph' = [.ends t true, .polls t]) →
      ([Event.status o.id o.status o.failureReason r].any Event.ends = true →
          ph.beats t ph' = [.ends t false])
        ∧ ([Event.status o.id o.status o.failureReason r].any
            Event.completes = true ↔
          ph.beats t ph' = [.ends t true, .polls t]) := by
    intro o r ho hr hidle hpoll
    cases r with
    | ok u =>
      rcases hr with ⟨-, due, rfl⟩ | ⟨hno, -⟩
      · simp [Event.ends, Event.completes, hpoll due rfl, ho]
      · rw [hrun] at hno
        cases hno
    | error e =>
      obtain ⟨due, rfl⟩ := hr
      simp [Event.ends, Event.completes, hidle due rfl]
  cases hm with
  | begin hr | wake hr =>
    rcases hr with ⟨-, due, rfl⟩ | ⟨hno, -⟩
    · simp [LoopPhase.beats]
    · rw [hrun] at hno
      cases hno
  | pollFailed | nothing | refuse | reject | accept | unclaimed =>
    simp [Event.ends, Event.completes, LoopPhase.beats]
  | claimed =>
    obtain ⟨o, -, -, rfl⟩ := hin
    simp [Event.ends, Event.completes, LoopPhase.beats, Status.isTerminal]
  | conclude _ hc =>
    rcases hc.1 with ⟨o', due, rfl⟩ | ⟨due, rfl⟩ <;>
      simp [LoopPhase.beats]
  | @rejected _ o _ r hr =>
    obtain ⟨o₀, reason, -, -, rfl⟩ := hin
    exact hlast _ r rfl hr (by rintro due rfl; rfl) (by rintro due rfl; rfl)
  | @reported _ o _ r hr =>
    obtain ⟨o₀, t₀, h, out, -, -, rfl⟩ := hin
    exact hlast _ r (report_isTerminal out) hr (by rintro due rfl; rfl)
      (by rintro due rfl; rfl)

/-! ### Steps of a loop -/

namespace Worker

variable {σ : Type} {p : Platform σ} {s s' : Site σ} {w w' : Worker}
  {i : Nat} {l : PollLoop}

/-- The time for which a loop has been told to wait when it comes to a
phase: that of the answer of the platform, or that of the next poll. -/
def IsDue (p : Platform σ) (interval : Span) (now : Nat) (s : Site σ) :
    LoopPhase → Prop
  | .polling due => due = s.due p .poll
  | .rejecting _ due | .claiming _ _ _ due | .reporting _ due =>
    due = s.due p .status
  | .idle due => due = interval.deadline now
  | .spawned | .executing _ _ | .exited => True

lemma isDue_nextCycle (interval : Span) (now : Nat) (s : Site σ)
    (w : Worker) : IsDue p interval now s (nextCycle p s w) := by
  rw [nextCycle]
  split
  · rfl
  · trivial

lemma isDue_endCycle (w : Worker) (hs : s'.now = s.now)
    (r : Except Failure Unit) :
    IsDue p w.interval s.now (endCycle p s' w r).1
      (endCycle p s' w r).2 := by
  cases r with
  | ok u => exact isDue_nextCycle ..
  | error e => exact congrArg w.interval.deadline hs

lemma isDue_reject (w : Worker) (hs : s'.now = s.now) (o : Operation)
    (reason : String) : IsDue p w.interval s.now (reject p s' w o reason).1
      (reject p s' w o reason).2 := by
  rw [reject]
  split
  · rfl
  · exact congrArg w.interval.deadline hs

lemma isDue_dispatch (w : Worker) (hs : s'.now = s.now) (o : Operation) :
    IsDue p w.interval s.now (dispatch p s' w o).1
      (dispatch p s' w o).2 := by
  rw [dispatch]
  split
  · exact isDue_reject w hs o _
  · split
    · exact isDue_reject w hs o _
    · split
      · rfl
      · exact congrArg w.interval.deadline hs

/-- The time for which a loop waits after a step. -/
lemma isDue_runLoop (h : runLoop p s w i l = some (s', w')) :
    ∃ (w₁ : Worker) (l₁ : PollLoop) (ph : LoopPhase),
      w' = w₁.setLoop i l₁ ph ∧ w₁.loops = w.loops
        ∧ w₁.interval = w.interval
        ∧ IsDue p w.interval s.now s' ph := by
  cases hph : l.phase with
  | spawned =>
    simp only [runLoop, hph] at h
    cases h
    exact ⟨w, _, _, rfl, rfl, rfl, isDue_nextCycle ..⟩
  | polling due =>
    simp only [runLoop, hph] at h
    split at h
    · cases h
      refine ⟨w, _, _, rfl, rfl, rfl, ?_⟩
      rcases (s.poll p).1 with e | _ | o
      · rfl
      · rfl
      · exact isDue_dispatch w rfl o
    · cases h
  | rejecting o due | reporting o due =>
    simp only [runLoop, hph] at h
    split at h
    · cases h
      exact ⟨w, _, _, rfl, rfl, rfl, isDue_endCycle w rfl _⟩
    · cases h
  | claiming o t hd due =>
    simp only [runLoop, hph] at h
    split at h
    · split at h
      · cases h
        exact ⟨w.spawnCall hd t, _, _, rfl, rfl, rfl, trivial⟩
      · cases h
        exact ⟨w, _, _, rfl, rfl, rfl, rfl⟩
    · cases h
  | executing o n =>
    simp only [runLoop, hph] at h
    split at h
    · cases h
      refine ⟨{ w with inFlight := none }, _, _, rfl, rfl, rfl, ?_⟩
      rw [conclude]
      split <;> rfl
    · cases h
  | idle due =>
    simp only [runLoop, hph] at h
    split at h
    · cases h
      exact ⟨w, _, _, rfl, rfl, rfl, isDue_nextCycle ..⟩
    · cases h
  | exited =>
    simp only [runLoop, hph] at h
    cases h

lemma interval_of_loopMove {w₁ : Worker} {ph ph' : LoopPhase}
    {new : List Event} (h : LoopMove w ph new w₁ ph') :
    w₁.interval = w.interval := by
  cases h <;> rfl

/-- What a step of the last loop, which is not to be cut off, comes to. -/
structure Turns (p : Platform σ) (s : Site σ) (w : Worker) (s' : Site σ)
    (w' : Worker) : Prop where
  move : ∃ new w₁, LoopMove w w.phase new w₁ w'.phase ∧ s.Gains new s'
    ∧ w'.calls = w₁.calls
  isDue : IsDue p w.interval s.now s' w'.phase
  /-- A loop that has seen all signals waits until it is time. -/
  rested : ∀ due, w.phase = .idle due → due ≤ s.now
  interval : w'.interval = w.interval
  running : w'.running = w.running
  signals : w'.signals = w.signals
  loop : ∃ l, w'.loops.getLast? = some l ∧ l.aborted = false
    ∧ l.seen = w'.signals

lemma turns_of_stepLoop (h : stepLoop p s w i = some (s', w'))
    (hl : w.loops[i]? = some l) (hi : i + 1 = w.loops.length)
    (ha : l.aborted = false) (hseen : l.seen = w.signals) :
    Turns p s w s' w' := by
  have hlast : w.loops.getLast? = some l := by
    rw [List.getLast?_eq_getElem?, ← hi, Nat.add_sub_cancel, hl]
  have hph := phase_of_getLast? hlast
  obtain ⟨l₀, hl₀, -, hcases⟩ := stepLoop_cases h
  obtain rfl : l₀ = l := Option.some.inj (hl₀.symm.trans hl)
  rcases hcases with
    ⟨hcut, -⟩ | ⟨-, new, w₁, seen, ph, hm, hg, hseen', rfl⟩
  · rw [ha] at hcut
    cases hcut
  · obtain ⟨hloops, -, hsig, hrun, -⟩ := loops_of_loopMove hm
    have hlast' := getLast?_setLoop (hloops ▸ hi) { l₀ with seen } ph
    have hph' := phase_of_getLast? hlast'
    -- the same step, once more, for what is due
    have hrl : runLoop p s w i l₀
        = some (s', w₁.setLoop i { l₀ with seen } ph) := by
      rw [stepLoop, hl] at h
      dsimp only at h
      split at h
      · cases h
      · rwa [if_neg (by simp [ha])] at h
    obtain ⟨w₂, l₂, ph₂, heq, hloops₂, hint₂, hdue⟩ := isDue_runLoop hrl
    have hph₂ : (w₁.setLoop i { l₀ with seen } ph).phase = ph₂ := by
      rw [heq]
      exact phase_of_getLast? (getLast?_setLoop (hloops₂ ▸ hi) l₂ ph₂)
    refine ⟨⟨new, w₁, ?_, hg, rfl⟩, hph₂ ▸ hdue, fun due hdle => ?_, ?_,
      hrun, hsig, _, hlast', ha, ?_⟩
    · rw [hph, hph']
      exact hm
    · rw [hph] at hdle
      simp only [runLoop, hdle] at hrl
      split at hrl
      · next hc => simpa [hseen] using hc
      · cases hrl
    · rw [heq]
      exact hint₂
    · show seen = w₁.signals
      rw [hsig]
      rcases hseen' with rfl | ⟨rfl, -⟩
      · exact hseen
      · rfl

/-- A loop can take a step when it is time and the call that it waits for
is over. -/
lemma exists_stepLoop (p : Platform σ) (hl : w.loops[i]? = some l)
    (ha : l.aborted = false) (hne : l.phase ≠ .exited)
    (hwake : ∀ due, wake? l = some due → due ≤ s.now)
    (hcall : ∀ o n, l.phase = .executing o n → w.calls[n]?.any (·.isOver)) :
    ∃ r, stepLoop p s w i = some r := by
  have hover : l.isOver = false := by simpa [PollLoop.isOver] using hne
  rw [stepLoop, hl]
  simp only [hover, ha, Bool.false_eq_true, if_false]
  cases hph : l.phase with
  | spawned =>
    simp only [runLoop, hph]
    exact ⟨_, rfl⟩
  | exited => exact absurd hph hne
  | executing o n =>
    obtain ⟨c, hc, ho⟩ := (Option.any_eq_true _ _).1 (hcall o n hph)
    obtain ⟨r, hr⟩ := Option.isSome_iff_exists.1 ho
    simp only [runLoop, hph, hc, Option.bind_some, hr]
    exact ⟨_, rfl⟩
  | polling d | rejecting _ d | reporting _ d | idle d =>
    have hdue := hwake d (by rw [wake?, hph])
    simp only [runLoop, hph, hdue, decide_true, Bool.true_or, if_true]
    exact ⟨_, rfl⟩
  | claiming _ _ _ d =>
    have hdue := hwake d (by rw [wake?, hph])
    simp only [runLoop, hph, hdue, if_true]
    split <;> exact ⟨_, rfl⟩

end Worker

namespace WorkerSystem

variable {σ : Type} {p : Platform σ} {site : Site σ} {table : HandlerTable}
  {interval : Span} {beats : List Beat} {s s' : WorkerSystem σ}

/-! ### Workers that nobody calls -/

/-- The states that a worker comes to after a start, as long as nobody
calls it and its owner holds on to it, and the beats of its loop.  The
state of the platform changes in any way. -/
inductive Running (p : Platform σ) (site : Site σ) (table : HandlerTable)
    (interval : Span) : List Beat → WorkerSystem σ → Prop where
  | start {s s' : WorkerSystem σ} (h : Held p site table interval s)
    (hw : s.NobodyWaits) (hs : s.start? = some s') :
    Running p site table interval [] s'
  | step {beats : List Beat} {s s' : WorkerSystem σ}
    (h : Running p site table interval beats s)
    (hs : (machine p).Step s s') :
    Running p site table interval (beats
      ++ s.worker.phase.beats s'.site.now s'.worker.phase) s'
  | outside {beats : List Beat} {s : WorkerSystem σ}
    (h : Running p site table interval beats s) (world : σ) :
    Running p site table interval beats (s.withWorld world)

/-- Nobody waits for a worker, and its loop goes on. -/
structure Alone (s : WorkerSystem σ) : Prop where
  nobody : s.NobodyWaits
  running : s.worker.running = true
  loop : ∃ l, s.worker.loops.getLast? = some l ∧ l.phase ≠ .exited
    ∧ l.aborted = false ∧ l.seen = s.worker.signals

/-- What can happen next to a worker that nobody calls. -/
inductive Turn (p : Platform σ) (s : WorkerSystem σ) :
    WorkerSystem σ → Prop where
  | loop {i : Nat} {site : Site σ} {w : Worker}
    (h : Worker.stepLoop p s.site s.worker i = some (site, w))
    (ht : Worker.Turns p s.site s.worker site w) :
    Turn p s { s with site, worker := w }
  | call {n : Nat} {site : Site σ} {w : Worker}
    (h : Worker.stepCall p s.site s.worker n = some (site, w)) :
    Turn p s { s with site, worker := w }
  | wait {d : Nat} (hidle : (machine p).Idle s) (hd : d ∈ s.worker.wakes)
    (hlt : s.site.now < d)
    (hmin : ∀ d' ∈ s.worker.wakes, s.site.now < d' → d ≤ d') :
    Turn p s { s with site := { s.site with now := d } }

lemma Held.earlier (h : Held p site table interval s) :
    EarlierExited s.worker.phases := by
  obtain ⟨before, cur, ht⟩ := h.isTraced
  exact ht.engaged.one.earlier

lemma Alone.turn (h : s.Alone) (hheld : Held p site table interval s)
    (hs : (machine p).Step s s') : Turn p s s' := by
  cases hs with
  | wait hidle hd hlt hmin => exact .wait hidle hd hlt hmin
  | run t ht =>
    cases step_cases ht with
    | loop hl =>
      refine .loop hl ?_
      obtain ⟨l, hlast, -, ha, hseen⟩ := h.loop
      obtain ⟨l₀, hl₀, hne, -⟩ := Worker.stepLoop_cases hl
      obtain ⟨hlast₀, hi⟩ := Worker.getLast?_of_live hheld.earlier hl₀ hne
      obtain rfl : l₀ = l := Option.some.inj (hlast₀.symm.trans hlast)
      exact Worker.turns_of_stepLoop hl hl₀ hi ha hseen
    | call hc => exact .call hc
    | caller hc hr =>
      rw [h.nobody _ (List.mem_of_getElem? hc)] at hr
      cases hr
    | destroy hrel =>
      rw [hheld.released] at hrel
      cases hrel

lemma Alone.step (h : s.Alone) (ht : Turn p s s') : s'.Alone := by
  cases ht with
  | wait => exact ⟨h.nobody, h.running, h.loop⟩
  | call hc =>
    obtain ⟨c, new, ph, -, -, -, rfl⟩ := Worker.stepCall_cases hc
    exact ⟨h.nobody, h.running, h.loop⟩
  | loop hl ht =>
    obtain ⟨l, hlast, ha, hseen⟩ := ht.loop
    refine ⟨h.nobody, ht.running.trans h.running, l, hlast, ?_, ha, hseen⟩
    obtain ⟨new, w₁, hm, -⟩ := ht.move
    rw [← Worker.phase_of_getLast? hlast]
    exact Worker.ne_exited_of_loopMove hm h.running

lemma alone_start (hw : s.NobodyWaits) (hs : s.start? = some s') :
    s'.Alone ∧ s'.worker.phase = .spawned := by
  obtain ⟨w, hstart, rfl⟩ := Option.map_eq_some_iff.1 hs
  obtain ⟨-, rfl⟩ := Worker.start?_eq_some hstart
  have hlast := List.getLast?_concat (l := s.worker.loops)
    (a := { seen := s.worker.signals + 1 })
  refine ⟨⟨hw, rfl, _, hlast, LoopPhase.noConfusion, rfl, rfl⟩, ?_⟩
  exact (congrArg (fun l => (l.map PollLoop.phase).getD .exited) hlast :)

lemma Running.held (h : Running p site table interval beats s) :
    Held p site table interval s := by
  induction h with
  | start h hw hs =>
    refine h.move (.start hw hs) ?_
    obtain ⟨w, -, rfl⟩ := Option.map_eq_some_iff.1 hs
    exact h.released
  | step _ hs ih => exact ih.step hs
  | outside _ world ih => exact ih.outside world

lemma Running.alone (h : Running p site table interval beats s) :
    s.Alone := by
  induction h with
  | start _ hw hs => exact (alone_start hw hs).1
  | step h hs ih => exact ih.step (ih.turn h.held hs)
  | outside _ _ ih => exact ⟨ih.nobody, ih.running, ih.loop⟩

/-- The loop takes a turn, a call of a handler, or the clock. -/
lemma Running.turn (h : Running p site table interval beats s)
    (hs : (machine p).Step s s') : Turn p s s' :=
  h.alone.turn h.held hs

/-- A worker keeps its interval, raised to the shortest one. -/
lemma Held.interval_eq (h : Held p site table interval s) :
    s.worker.interval = interval.max Worker.minInterval := by
  induction h with
  | new => rfl
  | outside _ _ ih => exact ih
  | move _ hm _ ih =>
    refine hm.keeps (P := fun _ w =>
      w.interval = interval.max Worker.minInterval) ?_ ?_ ?_ ?_ ?_ ih
    · exact fun _ hsame h => hsame.interval.trans h
    · exact fun _ h => h
    · intro s w hw hstart h
      obtain ⟨-, rfl⟩ := Worker.start?_eq_some hstart
      exact h
    · intro s s' w w' i hs h
      obtain ⟨l, -, -, hcases⟩ := Worker.stepLoop_cases hs
      rcases hcases with ⟨-, -, rfl⟩ | ⟨-, new, w₁, seen, ph, hm, -, -, rfl⟩
      · exact h
      · exact (Worker.interval_of_loopMove hm).trans h
    · intro s s' w w' i hs h
      obtain ⟨c, new, ph, -, -, -, rfl⟩ := Worker.stepCall_cases hs
      exact h

/-! ### The beats of a run -/

/-- The last beat of a loop in a phase. -/
def LastBeat (wait now : Nat) (last : Option Beat) : LoopPhase → Prop
  | .spawned => last = none
  | .polling _ | .rejecting _ _ | .claiming _ _ _ _ | .executing _ _
  | .reporting _ _ => ∃ t ≤ now, last = some (.polls t)
  | .idle due => ∃ t, last = some (.ends t false) ∧ due = t + wait
    ∧ now ≤ due
  | .exited => False

/-- The beats of a loop follow one another, and its phase goes with the
last one. -/
structure OnBeat (wait now : Nat) (beats : List Beat) (ph : LoopPhase) :
    Prop where
  chain : beats.IsChain (Beat.Follows wait)
  last : LastBeat wait now beats.getLast? ph

namespace OnBeat

variable {wait now : Nat} {ph ph' : LoopPhase} {w w₁ : Worker}
  {new : List Event}

lemma isChain_concat (h : beats.IsChain (Beat.Follows wait)) {b : Beat}
    (hb : ∀ b', beats.getLast? = some b' → Beat.Follows wait b' b) :
    (beats ++ [b]).IsChain (Beat.Follows wait) := by
  refine h.append (.singleton b) fun b' hb' c hc => ?_
  obtain rfl := Option.some.inj hc
  exact hb b' hb'

/-- A poll starts, as it should. -/
lemma polls (h : beats.IsChain (Beat.Follows wait)) (due : Nat)
    (hb : ∀ b, beats.getLast? = some b → b.Follows wait (.polls now)) :
    OnBeat wait now (beats ++ [.polls now]) (.polling due) :=
  ⟨isChain_concat h hb, now, le_refl _, List.getLast?_concat⟩

/-- A cycle ends that has processed nothing. -/
lemma rests (h : beats.IsChain (Beat.Follows wait))
    (hlast : ∃ t ≤ now, beats.getLast? = some (.polls t)) {due : Nat}
    (hdue : due = now + wait) :
    OnBeat wait now (beats ++ [.ends now false]) (.idle due) := by
  refine ⟨isChain_concat h fun b hb => ?_, now, List.getLast?_concat, hdue,
    hdue ▸ Nat.le_add_right _ _⟩
  obtain ⟨t, ht, hpolls⟩ := hlast
  obtain rfl := Option.some.inj (hb.symm.trans hpolls)
  exact .cycle ht

/-- A cycle ends that has processed an operation. -/
lemma drains (h : beats.IsChain (Beat.Follows wait))
    (hlast : ∃ t ≤ now, beats.getLast? = some (.polls t)) (due : Nat) :
    OnBeat wait now (beats ++ [.ends now true, .polls now])
      (.polling due) := by
  have hends : (beats ++ [Beat.ends now true]).IsChain
      (Beat.Follows wait) := isChain_concat h fun b hb => by
    obtain ⟨t, ht, hpolls⟩ := hlast
    obtain rfl := Option.some.inj (hb.symm.trans hpolls)
    exact .cycle ht
  have hpolls := polls hends due fun b hb => by
    obtain rfl := Option.some.inj (List.getLast?_concat.symm.trans hb)
    exact .drain
  rwa [List.append_assoc] at hpolls

/-- The last write of a cycle. -/
lemma ends {r : Except Failure Unit} (h : beats.IsChain (Beat.Follows wait))
    (hlast : ∃ t ≤ now, beats.getLast? = some (.polls t))
    (hr : w.Ends r ph') (hrun : w.running = true)
    (hdue : ∀ due, ph' = .idle due → due = now + wait)
    (hidle : ∀ due, ph' = .idle due → ph.beats now ph' = [.ends now false])
    (hpoll : ∀ due, ph' = .polling due →
      ph.beats now ph' = [.ends now true, .polls now]) :
    OnBeat wait now (beats ++ ph.beats now ph') ph' := by
  cases r with
  | ok u =>
    rcases hr with ⟨-, due, rfl⟩ | ⟨hno, -⟩
    · rw [hpoll due rfl]
      exact drains h hlast due
    · rw [hrun] at hno
      cases hno
  | error e =>
    obtain ⟨due, rfl⟩ := hr
    rw [hidle due rfl]
    exact rests h hlast (hdue due rfl)

/-- The moves of a loop. -/
lemma loopMove (h : OnBeat wait now beats ph)
    (hm : LoopMove w ph new w₁ ph') (hrun : w.running = true)
    (hdue : ∀ due, ph' = .idle due → due = now + wait)
    (hrested : ∀ due, ph = .idle due → due ≤ now) :
    OnBeat wait now (beats ++ ph.beats now ph') ph' := by
  obtain ⟨hchain, hlast⟩ := h
  cases hm with
  | begin hr =>
    obtain ⟨-, due, rfl⟩ | ⟨hno, -⟩ := hr
    · refine polls hchain due fun b hb => ?_
      rw [show beats.getLast? = none from hlast] at hb
      cases hb
    · rw [hrun] at hno
      cases hno
  | @wake due₀ _ hr =>
    obtain ⟨-, due, rfl⟩ | ⟨hno, -⟩ := hr
    · obtain ⟨t, hends, rfl, hle⟩ := hlast
      obtain rfl : t + wait = now := (hrested _ rfl).antisymm hle
      refine polls hchain due fun b hb => ?_
      obtain rfl := Option.some.inj (hb.symm.trans hends)
      exact .rest
    · rw [hrun] at hno
      cases hno
  | pollFailed | nothing | refuse | unclaimed =>
    exact rests hchain hlast (hdue _ rfl)
  | reject | accept | claimed =>
    exact ⟨(List.append_nil beats).symm ▸ hchain,
      (List.append_nil beats).symm ▸ hlast⟩
  | conclude _ hc =>
    rcases hc.1 with ⟨o', due, rfl⟩ | ⟨due, rfl⟩
    · exact ⟨(List.append_nil beats).symm ▸ hchain,
        (List.append_nil beats).symm ▸ hlast⟩
    · exact rests hchain hlast (hdue _ rfl)
  | rejected hr | reported hr =>
    refine ends hchain hlast hr hrun hdue ?_ ?_ <;> rintro due rfl <;> rfl

/-- While the loop stays where it is, time may pass until it wakes. -/
lemma stay (h : OnBeat wait now beats ph) {now' : Nat} (hle : now ≤ now')
    (hidle : ∀ due, ph = .idle due → now' ≤ due) :
    OnBeat wait now' beats ph := by
  refine ⟨h.chain, ?_⟩
  have hlast := h.last
  cases ph with
  | spawned | exited => exact hlast
  | polling | rejecting | claiming | executing | reporting =>
    obtain ⟨t, ht, heq⟩ := hlast
    exact ⟨t, ht.trans hle, heq⟩
  | idle due =>
    obtain ⟨t, heq, hdue, -⟩ := hlast
    exact ⟨t, heq, hdue, hidle due rfl⟩

end OnBeat

/-- A call of a handler leaves the clock and the loops alone. -/
lemma same_of_stepCall {n : Nat} {s s' : Site σ} {w w' : Worker}
    (h : Worker.stepCall p s w n = some (s', w')) :
    s'.now = s.now ∧ w'.phase = w.phase ∧ w'.loops = w.loops := by
  obtain ⟨c, new, ph, -, -, hg, rfl⟩ := Worker.stepCall_cases h
  exact ⟨hg.now, rfl, rfl⟩

/-- The loop can take a step when it is time and the call that it waits for
is over. -/
lemma Alone.not_idle (h : s.Alone)
    (hwake : ∀ due, Worker.wake? { phase := s.worker.phase, seen := 0 }
      = some due → due ≤ s.site.now)
    (hcall : ∀ o n, s.worker.phase = .executing o n →
      s.worker.calls[n]?.any (·.isOver)) : ¬ (machine p).Idle s := by
  intro hidle
  obtain ⟨l, hlast, hne, ha, -⟩ := h.loop
  obtain ⟨i, hi⟩ := List.mem_iff_getElem?.1 (List.mem_of_getLast? hlast)
  have hph := Worker.phase_of_getLast? hlast
  obtain ⟨r, hr⟩ := Worker.exists_stepLoop p hi ha hne
    (fun due hdue => hwake due (by rw [hph]; exact hdue))
    fun o n hex => hcall o n (hph.trans hex)
  cases hr.symm.trans (Option.map_eq_none_iff.1 (hidle (.loop i)))

lemma Alone.not_idle_of_rested (h : s.Alone) {due : Nat}
    (hph : s.worker.phase = .idle due) (hdue : due ≤ s.site.now) :
    ¬ (machine p).Idle s := by
  refine h.not_idle (fun due' hdue' => ?_) fun o n hex => ?_
  · rw [hph] at hdue'
    exact Option.some.inj hdue' ▸ hdue
  · rw [hph] at hex
    cases hex

lemma Alone.mem_wakes (h : s.Alone) {due : Nat}
    (hph : s.worker.phase = .idle due) : due ∈ s.worker.wakes := by
  obtain ⟨l, hlast, -⟩ := h.loop
  rw [Worker.phase_of_getLast? hlast] at hph
  exact List.mem_append_left _ (List.mem_filterMap.2
    ⟨l, List.mem_of_getLast? hlast, by rw [Worker.wake?, hph]⟩)

/-- When the clock moves on, it does so no further than to the time for
which the loop waits. -/
lemma Alone.le_of_wait (h : s.Alone) (hidle : (machine p).Idle s) {d : Nat}
    (hmin : ∀ d' ∈ s.worker.wakes, s.site.now < d' → d ≤ d') {due : Nat}
    (hph : s.worker.phase = .idle due) : d ≤ due := by
  refine hmin due (h.mem_wakes hph) ?_
  by_contra hle
  exact h.not_idle_of_rested hph (Nat.not_lt.1 hle) hidle

/-- The beats of every run follow one another. -/
theorem Running.onBeat (h : Running p site table interval beats s) :
    OnBeat (Worker.restTime interval) s.site.now beats s.worker.phase := by
  induction h with
  | start _ hw hs =>
    rw [(alone_start hw hs).2]
    exact ⟨.nil, rfl⟩
  | outside _ _ ih => exact ih
  | @step beats s s' h hs ih =>
    have halone := h.alone
    cases h.turn hs with
    | loop hl ht =>
      obtain ⟨new, w₁, hm, hg, -⟩ := ht.move
      rw [← hg.now] at ih
      refine ih.loopMove hm halone.running (fun due hdue => ?_)
        fun due hdue => hg.now ▸ ht.rested due hdue
      have hisDue := ht.isDue
      rw [hdue, h.held.interval_eq] at hisDue
      exact hg.now ▸ hisDue
    | call hc =>
      obtain ⟨hnow, hphase, -⟩ := same_of_stepCall hc
      show OnBeat _ _ (beats ++ s.worker.phase.beats _ _) _
      dsimp only
      rw [hphase, hnow, LoopPhase.beats_self, List.append_nil]
      exact ih
    | wait hidle hd hlt hmin =>
      dsimp only
      rw [LoopPhase.beats_self, List.append_nil]
      exact ih.stay hlt.le fun due => halone.le_of_wait hidle hmin

/-! ### The next poll -/

/-- No call of a handler is open unless the loop waits for it. -/
lemma Running.isOver (h : Running p site table interval beats s) {n : Nat}
    {c : HandlerCall} (hc : s.worker.calls[n]? = some c)
    (hph : ∀ o, s.worker.phase ≠ .executing o n) : c.isOver = true := by
  obtain ⟨before, cur, ht⟩ := h.held.isTraced
  by_contra ho
  rcases ht.engaged.open_call n c hc (by simpa using ho) with hf | hcut
  · rcases ht.engaged.in_flight n hf with ⟨o, hex⟩ | ⟨-, i, hi⟩
    · exact hph o hex
    · cases h.alone.nobody _ hi
  · cases h.alone.nobody _ hcut

lemma callWake?_of_isOver {c : HandlerCall} (h : c.isOver = true) :
    Worker.callWake? c = none := by
  rw [Worker.callWake?]
  split
  · next heq =>
    rw [HandlerCall.isOver, HandlerCall.result?, heq] at h
    cases h
  · rfl
  · rfl

/-- Nobody else waits while the loop waits for the next poll. -/
lemma Running.eq_of_mem_wakes
    (h : Running p site table interval beats s) {d due : Nat}
    (hph : s.worker.phase = .idle due) (hd : d ∈ s.worker.wakes) :
    d = due := by
  rcases List.mem_append.1 hd with hd | hd
  · -- all earlier loops have exited
    obtain ⟨l, hl, hwake⟩ := List.mem_filterMap.1 hd
    have hne : l.phase ≠ .exited := fun hex => by
      rw [Worker.wake?, hex] at hwake
      cases hwake
    obtain ⟨i, hi⟩ := List.mem_iff_getElem?.1 hl
    have hlast := (Worker.getLast?_of_live h.held.earlier hi hne).1
    rw [Worker.phase_of_getLast? hlast] at hph
    rw [Worker.wake?, hph] at hwake
    exact (Option.some.inj hwake).symm
  · obtain ⟨c, hc, hwake⟩ := List.mem_filterMap.1 hd
    obtain ⟨n, hn⟩ := List.mem_iff_getElem?.1 hc
    have hover := h.isOver hn fun o => by simp [hph]
    rw [callWake?_of_isOver hover] at hwake
    cases hwake

/-- The clock goes on to the time for which the loop waits, and then the
poll starts. -/
lemma Running.rest_step (h : Running p site table interval beats s)
    {due : Nat} (hph : s.worker.phase = .idle due)
    (hs : (machine p).Step s s') :
    s.site.now < due ∧ s'.site.now = due ∧ s'.worker.phase = .idle due
      ∨ s'.site.now = due ∧ ∃ d, s'.worker.phase = .polling d := by
  have hle : s.site.now ≤ due := by
    have hlast := h.onBeat.last
    rw [hph] at hlast
    obtain ⟨t, -, -, hle⟩ := hlast
    exact hle
  cases h.turn hs with
  | loop hl ht =>
    obtain ⟨new, w₁, hm, hg, -⟩ := ht.move
    have hnow := hle.antisymm (ht.rested due hph)
    refine .inr ⟨hg.now.trans hnow, ?_⟩
    rw [hph] at hm
    generalize hph' : Worker.phase _ = ph' at hm
    cases hm with
    | wake hr =>
      rcases hr with ⟨-, d, rfl⟩ | ⟨hno, -⟩
      · exact ⟨d, rfl⟩
      · rw [h.alone.running] at hno
        cases hno
  | call hc =>
    obtain ⟨c, new, ph, hget, hm, -⟩ := Worker.stepCall_cases hc
    have hover := h.isOver hget fun o => by simp [hph]
    rw [hm.isOver] at hover
    cases hover
  | wait _ hd hlt =>
    obtain rfl := h.eq_of_mem_wakes hph hd
    exact .inl ⟨hlt, rfl, hph⟩

/-- A worker whose loop waits for the next poll can go on. -/
lemma Alone.exists_step (h : s.Alone) {due : Nat}
    (hph : s.worker.phase = .idle due) : ∃ s', (machine p).Step s s' := by
  by_cases hidle : (machine p).Idle s
  · refine Machine.exists_wait hidle (h.mem_wakes hph) ?_
    by_contra hle
    exact h.not_idle_of_rested hph (Nat.not_lt.1 hle) hidle
  · exact Machine.exists_run hidle

/-- The poll for which a loop waits does start, when it is time. -/
theorem Running.inevitable (h : Running p site table interval beats s)
    {due : Nat} (hph : s.worker.phase = .idle due) :
    (machine p).Inevitable (fun u => u.site.now = due
      ∧ ∃ d, u.worker.phase = .polling d) s := by
  have hdue : ∀ {beats s}, Running p site table interval beats s →
      s.worker.phase = .idle due → s.site.now = due →
      (machine p).Inevitable (fun u => u.site.now = due
        ∧ ∃ d, u.worker.phase = .polling d) s := by
    intro beats s h hph hnow
    refine .later (h.alone.exists_step hph) fun s' hs => .now ?_
    rcases h.rest_step hph hs with ⟨hlt, -⟩ | hpolls
    · exact absurd hnow hlt.ne
    · exact hpolls
  refine .later (h.alone.exists_step hph) fun s' hs => ?_
  rcases h.rest_step hph hs with ⟨-, hnow, hph'⟩ | hpolls
  · exact hdue (h.step hs) hph' hnow
  · exact .now hpolls

/-- The beats of a step, by the calls that it enters. -/
theorem Running.shows (h : Running p site table interval beats s)
    (hs : (machine p).Step s s') {new : List Event}
    (hnew : s'.site.journal.calls = s.site.journal.calls ++ new) :
    s.worker.phase.Shows s'.site.now new s'.worker.phase := by
  cases h.turn hs with
  | loop hl ht =>
    obtain ⟨new', w₁, hm, hg, -⟩ := ht.move
    obtain rfl : new = new' :=
      List.append_cancel_left (hnew.symm.trans hg.calls)
    obtain ⟨before, cur, htr⟩ := h.held.isTraced
    obtain ⟨hfails, hcompletes⟩ :=
      hm.beats_eq htr.traced.inCycle h.alone.running _
    exact ⟨hfails, hcompletes, hm.countP_beats _⟩
  | call hc =>
    obtain ⟨c, new', ph, -, hm, hg, rfl⟩ := Worker.stepCall_cases hc
    obtain rfl : new = new' :=
      List.append_cancel_left (hnew.symm.trans hg.calls)
    refine LoopPhase.shows_self _ s.worker.phase ?_ ?_ ?_ <;>
      cases hm <;> rfl
  | wait =>
    obtain rfl : new = [] :=
      List.append_cancel_left (hnew.symm.trans (List.append_nil _).symm)
    exact LoopPhase.shows_self _ _ rfl rfl rfl

/-- When a worker polls that nobody calls.  Here `wait` is the time between
the end of a cycle that has processed nothing and the next poll. -/
structure Cadence (p : Platform σ) (wait : Nat) (beats : List Beat)
    (s : WorkerSystem σ) : Prop where
  follows : beats.IsChain (Beat.Follows wait)
  /-- After such a cycle the next poll does start. -/
  rests : ∀ t, beats.getLast? = some (.ends t false) →
    (machine p).Inevitable (fun u => u.site.now = t + wait
      ∧ ∃ due, u.worker.phase = .polling due) s
  /-- Polls start and cycles end with the calls of the loop. -/
  shows : ∀ s' new, (machine p).Step s s' →
    s'.site.journal.calls = s.site.journal.calls ++ new →
    s.worker.phase.Shows s'.site.now new s'.worker.phase

theorem cadence_of_running (h : Running p site table interval beats s) :
    Cadence p (Worker.restTime interval) beats s where
  follows := h.onBeat.chain
  rests t ht := by
    have hlast := h.onBeat.last
    rw [ht] at hlast
    generalize hph : s.worker.phase = ph at hlast
    cases ph with
    | spawned => cases hlast
    | exited => exact hlast.elim
    | polling | rejecting | claiming | executing | reporting =>
      obtain ⟨t', -, heq⟩ := hlast
      cases heq
    | idle due =>
      obtain ⟨t', heq, rfl, -⟩ := hlast
      obtain ⟨rfl, -⟩ := Beat.ends.inj (Option.some.inj heq)
      exact h.inevitable hph
  shows _ _ hs hnew := h.shows hs hnew

/-- A run can go on to the poll for which the loop waits. -/
lemma Running.exists_polls (h : Running p site table interval beats s)
    {due : Nat} (hph : s.worker.phase = .idle due) :
    ∃ s', Running p site table interval (beats ++ [.polls due]) s' := by
  have hpolls : ∀ {s s'}, Running p site table interval beats s →
      s.worker.phase = .idle due → (machine p).Step s s' →
      s'.site.now = due → (∃ d, s'.worker.phase = .polling d) →
      Running p site table interval (beats ++ [.polls due]) s' := by
    rintro s s' h hph hs hnow ⟨d, hd⟩
    have hstep := h.step hs
    rw [hph, hd, hnow] at hstep
    exact hstep
  obtain ⟨s', hs⟩ := h.alone.exists_step hph
  rcases h.rest_step hph hs with ⟨-, hnow, hph'⟩ | ⟨hnow, hd⟩
  · have h' := h.step hs
    rw [hph, hph', LoopPhase.beats_self, List.append_nil] at h'
    obtain ⟨s'', hs'⟩ := h'.alone.exists_step hph'
    rcases h'.rest_step hph' hs' with ⟨hlt, -⟩ | ⟨hnow', hd⟩
    · exact absurd hnow hlt.ne
    · exact ⟨s'', hpolls h' hph' hs' hnow' hd⟩
  · exact ⟨s', hpolls h hph hs hnow hd⟩

end WorkerSystem

end RemoteOps
