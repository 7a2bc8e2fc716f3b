/-
Several callers who take a service down at once.

They all wait for the exit of the one loop, or have it cut off when their
time is over; whoever goes on first tells the handlers to stop, and the
others find none at work.  Who has cut off the loop in vain leaves it
behind after a while.

* `Worker.IsLeft`: the loop of a worker has exited or was told to;
* `ServiceSystem.GroupsAwaited`: who waits for the handlers that were told
  to stop;
* `ServiceSystem.Crowd`: the invariant of a service whose startup has
  returned and of any number of callers who stop it;
* `ServiceSystem.Crowd.move`, `ServiceSystem.Crowd.clock`,
  `ServiceSystem.Crowd.stop`: every change keeps it;
* `ServiceSystem.Released`, `ServiceSystem.Crowd.released`: when all of
  them have returned, all handlers were told to stop and the worker is not
  to go on.
-/
import RemoteOps.Proofs.Service.Bracket
import RemoteOps.Proofs.Service.Provision

namespace RemoteOps

/-! ### Workers that are left -/

namespace Worker

variable {σ : Type} {p : Platform σ} {site site' : Site σ} {i : Nat}
  {w w' : Worker} {h h' : Halt}

/-- A worker that is not to go on, and whose loops have exited or were told
to. -/
structure IsLeft (w : Worker) : Prop where
  running : w.running = false
  loops : ∀ l ∈ w.loops, l.isOver = true ∨ l.aborted = true

/-- What becomes of a worker that is to come down: once it is not to go on,
it stays so, and so do its loops once they were told to exit. -/
structure ComesDown (w w' : Worker) : Prop where
  running : w.running = false → w'.running = false
  isLeft : w.IsLeft → w'.IsLeft

namespace ComesDown

lemma of_loops (hrun : w.running = false → w'.running = false)
    (hloops : w'.loops = w.loops) : ComesDown w w' where
  running := hrun
  isLeft h := ⟨hrun h.running, hloops ▸ h.loops⟩

lemma stepLoop (hs : stepLoop p site w i = some (site', w')) :
    ComesDown w w' where
  running hrun := (running_stepLoop hs).trans hrun
  isLeft h := by
    refine ⟨(running_stepLoop hs).trans h.running, ?_⟩
    obtain ⟨l, hl, hne, hcases⟩ := stepLoop_cases hs
    rcases hcases with ⟨-, -, rfl⟩ | ⟨ha, -⟩
    · exact forall_mem_set h.loops (.inl rfl) i
    · -- a loop that was told to exit does nothing else
      rcases h.loops l (List.mem_of_getElem? hl) with hover | haborted
      · exact absurd (of_decide_eq_true hover) hne
      · rw [ha] at haborted
        cases haborted

lemma stepCall (hs : stepCall p site w i = some (site', w')) :
    ComesDown w w' := by
  obtain ⟨c, es, ph, -, -, -, rfl⟩ := stepCall_cases hs
  exact .of_loops id rfl

lemma beginStop (w : Worker) : ComesDown w w.beginStop.1 := by
  rw [w.beginStop_eq.1]
  exact .of_loops (fun _ => rfl) rfl

lemma beginAbort {k : Nat} (hk : w.current? = some k) :
    ComesDown w w.beginAbort.1 where
  running _ := running_beginAbort w
  isLeft h := by
    refine ⟨running_beginAbort w, fun l hl => ?_⟩
    rw [beginAbort_of_some hk] at hl
    obtain ⟨j, hj⟩ := List.mem_iff_getElem?.1 hl
    have hj' : (w.loops.modify k fun l => { l with aborted := true })[j]?
        = some l := hj
    rw [List.getElem?_modify] at hj'
    obtain ⟨l₀, hl₀, rfl⟩ := Option.map_eq_some_iff.1 hj'
    split
    · exact .inr rfl
    · exact h.loops l₀ (List.mem_of_getElem? hl₀)

lemma resume (hr : w.resume h = some (w', h')) : ComesDown w w' := by
  refine .of_loops (running_resume hr).trans ?_
  cases resume_cases hr with
  | stopped | nothing | cut | gone => rfl

end ComesDown

/-- The only loop is told to exit. -/
lemma isLeft_beginAbort {k : Nat} (hk : w.current? = some k)
    (hsingle : w.loops.length = 1) : w.beginAbort.1.IsLeft where
  running := running_beginAbort w
  loops l hl := by
    obtain ⟨l₀, hl₀⟩ := List.length_eq_one_iff.1 hsingle
    obtain rfl : 0 = k := by
      rw [current?, hl₀] at hk
      exact Option.some.inj hk
    rw [beginAbort_of_some hk] at hl
    have hl' : l ∈ w.loops.modify 0 fun l => { l with aborted := true } := hl
    rw [hl₀] at hl'
    rw [List.mem_singleton.1 hl']
    exact .inr rfl

/-- The only loop has exited. -/
lemma isLeft_of_loopIsOver (hrun : w.running = false)
    (hsingle : w.loops.length = 1) (hover : w.loopIsOver 0 = true) :
    w.IsLeft where
  running := hrun
  loops l hl := by
    obtain ⟨l₀, hl₀⟩ := List.length_eq_one_iff.1 hsingle
    rw [loopIsOver, hl₀] at hover
    rw [hl₀] at hl
    rw [List.mem_singleton.1 hl]
    exact .inl hover

/-- The only loop is the one to wait for. -/
lemma beginStop_snd (hsingle : w.loops.length = 1) :
    w.beginStop.2 = .awaitingExit 0 := by
  obtain ⟨l, hl⟩ := List.length_eq_one_iff.1 hsingle
  simp [beginStop, current?, hl]

lemma SameTasks.length_loops (h : SameTasks w w') :
    w'.loops.length = w.loops.length := by
  simpa [Worker.phases] using congrArg List.length h.phases

end Worker

/-- How far a caller is with the worker: it is not to go on, and from when
it is cut off its loop was told to exit. -/
def ServiceCall.HasHalted (sv : Service) : ServiceCall → Prop
  | .takedown (.stoppingWorker h _) => h = .awaitingExit 0
    ∧ ∀ w, sv.worker = some w → w.running = false
  | .takedown (.abortingWorker _ _) => ∀ w, sv.worker = some w → w.IsLeft
  | .takedown (.stoppingHandlers _) | .startup _ | .returned _
  | .unwound => True

lemma ServiceCall.HasHalted.setWorker {sv : Service} {c : ServiceCall}
    {w w' : Worker} (h : c.HasHalted sv) (hw : sv.worker = some w)
    (hdown : w.ComesDown w') :
    c.HasHalted { sv with worker := some w' } := by
  cases c with
  | startup | returned | unwound => trivial
  | takedown t =>
    cases t with
    | stoppingWorker =>
      exact ⟨h.1, fun _ hw₁ =>
        Option.some.inj hw₁ ▸ hdown.running (h.2 w hw)⟩
    | abortingWorker =>
      exact fun _ hw₁ => Option.some.inj hw₁ ▸ hdown.isLeft (h w hw)
    | stoppingHandlers => trivial

namespace ServiceSystem

variable {σ : Type} {p : Platform σ} {site site' : Site σ} {i : Nat}
  {sv sv' : Service} {call : ServiceCall} {w w' : Worker}
  {cs : List Handler} {late : Bool}
  {callers callers' A B : List ServiceCall} {s s' : ServiceSystem σ}
  {es : List Event}

/-! ### One caller among others -/

lemma mem_middle {c : ServiceCall} :
    c ∈ A ++ call :: B ↔ c = call ∨ c ∈ A ++ B :=
  List.perm_middle.mem_iff.trans List.mem_cons

lemma forall_mem_middle {P : ServiceCall → Prop} :
    (∀ c ∈ A ++ call :: B, P c) ↔ P call ∧ ∀ c ∈ A ++ B, P c := by
  simp only [mem_middle, forall_eq_or_imp]

lemma halts_middle : (A ++ call :: B).flatMap ServiceCall.halts
    = A.flatMap ServiceCall.halts
      ++ (call.halts ++ B.flatMap ServiceCall.halts) := by
  rw [List.flatMap_append, List.flatMap_cons]

/-- A caller is among others. -/
lemma exists_eq_middle {c : ServiceCall} (hc : callers[i]? = some c) :
    ∃ A B, callers = A ++ c :: B
      ∧ ∀ {c'}, callers.set i c' = A ++ c' :: B := by
  obtain ⟨hi, rfl⟩ := List.getElem?_eq_some_iff.1 hc
  refine ⟨callers.take i, callers.drop (i + 1), ?_, fun {c'} => ?_⟩
  · rw [← List.drop_eq_getElem_cons hi, List.take_append_drop]
  · rw [List.set_eq_take_append_cons_drop, if_pos hi]

/-- Who has returned does not wait. -/
lemma halts_of_forall_isOver (hover : ∀ c ∈ callers, c.isOver = true) :
    callers.flatMap ServiceCall.halts = [] := by
  refine List.flatMap_eq_nil_iff.2 fun c hc => ?_
  have hc' := hover c hc
  cases c with
  | returned r => rfl
  | startup | takedown | unwound => cases hc'

/-- Somebody waits for the worker. -/
def AwaitsWorker (callers : List ServiceCall) : Prop :=
  ∃ c ∈ callers, c.halts ≠ []

lemma not_awaitsWorker (hover : ∀ c ∈ callers, c.isOver = true) :
    ¬ AwaitsWorker callers := by
  rintro ⟨c, hc, hne⟩
  have hnil := halts_of_forall_isOver hover
  exact hne (List.flatMap_eq_nil_iff.1 hnil c hc)

/-- Who does not wait for the worker may become another one. -/
lemma AwaitsWorker.replace {c : ServiceCall} (hc : c.halts = [])
    (h : AwaitsWorker (A ++ c :: B)) : AwaitsWorker (A ++ call :: B) := by
  obtain ⟨c', hc', hne⟩ := h
  rcases mem_middle.1 hc' with rfl | hc'
  · exact absurd hc hne
  · exact ⟨c', mem_middle.2 (.inr hc'), hne⟩

/-! ### Handlers that were told to stop -/

/-- The handlers that were told to stop, if any, are told promptly, and
somebody waits for them until they have stopped. -/
structure GroupsAwaited (site : Site σ) (sv : Service)
    (callers : List ServiceCall) : Prop where
  groups : ∀ d ∈ sv.shutdowns, d.Prompt site.now site.journal.told
  untold : sv.shutdowns = [] → site.journal.told = []
  awaited : (∀ d ∈ sv.shutdowns, d.result?.isSome = true)
    ∨ ∃ i, .takedown (.stoppingHandlers i) ∈ callers

namespace GroupsAwaited

variable (h : GroupsAwaited site sv callers)

include h

/-- Nothing happens to the handlers, and who waits for them waits on. -/
lemma congr (hsd : sv'.shutdowns = sv.shutdowns)
    (hnow : site'.now = site.now)
    (htold : site'.journal.told = site.journal.told)
    (hkeep : ∀ i, .takedown (.stoppingHandlers i) ∈ callers →
      .takedown (.stoppingHandlers i) ∈ callers') :
    GroupsAwaited site' sv' callers' where
  groups d hd := by
    rw [hnow, htold]
    exact h.groups d (hsd ▸ hd)
  untold hnil := htold.trans (h.untold (hsd ▸ hnil))
  awaited := h.awaited.imp (fun hall d hd => hall d (hsd ▸ hd))
    fun ⟨i, hi⟩ => ⟨i, hkeep i hi⟩

/-- The only group is replaced. -/
lemma setShutdown {d d' : Shutdown} (hsd : sv.shutdowns = [d])
    (hsd' : sv'.shutdowns = [d'])
    (hp : d'.Prompt site'.now site'.journal.told)
    (hres : d.result?.isSome = true → d'.result?.isSome = true) :
    GroupsAwaited site' sv' callers where
  groups := by
    rw [hsd']
    exact List.forall_mem_singleton.2 hp
  untold hnil := by
    rw [hsd'] at hnil
    cases hnil
  awaited := h.awaited.imp_left fun hall => by
    rw [hsd']
    exact List.forall_mem_singleton.2 (hres (hall d (by simp [hsd])))

/-- The handlers that are at work are told to stop, and who tells them
waits for them. -/
lemma closes (hnil : sv.active.isEmpty = false → sv.shutdowns = [])
    (hc : Closes site.now sv sv' call)
    (hkeep : ∀ c ∈ callers, c ∈ callers') (hcall : call ∈ callers') :
    GroupsAwaited site sv' callers' := by
  cases hc with
  | nothing | refused => exact h.congr rfl rfl rfl fun _ => hkeep _
  | @group d he hd =>
    have hsd := hnil he
    refine ⟨?_, fun hno => ?_, .inr ⟨_, hcall⟩⟩
    · show ∀ d' ∈ sv.shutdowns ++ [d], _
      rw [hsd, h.untold hsd]
      exact List.forall_mem_singleton.2 (.begin hd)
    · have hno' : sv.shutdowns ++ [d] = [] := hno
      simp at hno'

end GroupsAwaited

/-! ### The invariant -/

/-- A service whose startup has returned, and those who called it.  If it
is `late`, one of them called for a stop after the startup had
returned. -/
structure Crowd (cs : List Handler) (late : Bool) (site : Site σ)
    (sv : Service) (callers : List ServiceCall) : Prop where
  past : ∀ c ∈ callers, c.isOfStartup = false
  standing : Standing cs 1 site.journal.started site.journal.published sv
  single : ∀ w, sv.worker = some w → w.loops.length = 1
  hasHalted : ∀ c ∈ callers, c.HasHalted sv
  groups : GroupsAwaited site sv callers
  /-- The worker is waited for, or it is left and no handler is at work any
  more. -/
  down : late = true → AwaitsWorker callers
    ∨ sv.active = .empty ∧ ∀ w, sv.worker = some w → w.IsLeft

namespace Crowd

lemma roster (h : Crowd cs late site sv callers) :
    OnRoster cs 1 site sv (.returned (.ok ())) :=
  ⟨fun h1 => absurd h1 Nat.one_ne_zero, h.standing⟩

lemma of_late (h : Crowd cs true site sv callers) :
    Crowd cs late site sv callers :=
  { h with down := fun _ => h.down rfl }

/-- The startup has returned, and so have all stops that were called
before. -/
lemma of_bracket {r : Except ServiceError Unit}
    (h : Bracket cs 0 site sv (.returned r))
    (hsingle : ∀ w, sv.worker = some w → w.loops.length = 1)
    (hover : ∀ c ∈ callers, c.isOver = true) :
    Crowd cs false site sv callers where
  past c hc := by
    have hc' := hover c hc
    cases c with
    | returned | takedown => rfl
    | startup | unwound => cases hc'
  standing := h.roster.2.of_pos Nat.one_pos
  single := hsingle
  hasHalted c hc := by
    have hc' := hover c hc
    cases c with
    | returned => trivial
    | startup | takedown | unwound => cases hc'
  groups := ⟨h.attended.groups, h.attended.untold, .inl (h.finished rfl)⟩
  down hno := by cases hno

/-- A return is entered. -/
lemma noted (h : Crowd cs late site sv callers) (i : Nat) :
    Crowd cs late (site.note (.returned i)) sv callers :=
  have he := (Site.Enters.refl site).note (.returned i)
  { h with
    standing := (h.roster.enters he
      (List.forall_mem_singleton.2 ⟨rfl, rfl⟩)).2
    groups := h.groups.congr rfl rfl (by rw [he.told]; simp [Event.stop?])
      fun _ => id }

lemma noteReturn (h : Crowd cs late site sv callers) (i : Nat)
    (c : ServiceCall) :
    Crowd cs late (ServiceSystem.noteReturn site i c) sv callers := by
  rw [ServiceSystem.noteReturn]
  split
  · exact h.noted i
  · exact h

lemma outside (h : Crowd cs late site sv callers) (world : σ) :
    Crowd cs late { site with world } sv callers :=
  { h with groups := { h.groups with } }

/-- Time passes. -/
lemma clock {d : Nat} (h : Crowd cs late s.site s.service s.callers)
    (htell : s.TellsInTime d) :
    Crowd cs late { s.site with now := d } s.service s.callers :=
  { h with groups := { h.groups with
      groups := fun g hg => (h.groups.groups g hg).clock (htell g hg) } }

/-! ### Moves of the worker -/

/-- The worker has taken a step. -/
lemma setWorker (h : Crowd cs late site sv callers) {new : List Event}
    (hw : sv.worker = some w) (hg : site.Gains new site')
    (hroster : OnRoster cs 1 site' { sv with worker := some w' }
      (.returned (.ok ())))
    (hlength : w'.loops.length = w.loops.length)
    (hdown : w.ComesDown w') :
    Crowd cs late site' { sv with worker := some w' } callers := by
  obtain ⟨es, he, -, hes⟩ := hg.enters
  have htold : site'.journal.told = site.journal.told := by
    rw [he.told, List.filterMap_eq_nil_iff.2 fun e hmem =>
      stop?_of_isOfWorker (hes e hmem), List.append_nil]
  exact {
    past := h.past
    standing := hroster.2
    single := fun w₁ hw₁ =>
      Option.some.inj hw₁ ▸ hlength.trans (h.single w hw)
    hasHalted := fun c hc => (h.hasHalted c hc).setWorker hw hdown
    groups := h.groups.congr rfl he.now htold fun _ => id
    down := fun hlate => (h.down hlate).imp_right fun ⟨ha, hleft⟩ =>
      ⟨ha, fun w₁ hw₁ => Option.some.inj hw₁ ▸ hdown.isLeft (hleft w hw)⟩ }

lemma stepLoop (h : Crowd cs late site sv callers)
    (hw : sv.worker = some w)
    (hs : Worker.stepLoop p site w i = some (site', w')) :
    Crowd cs late site' { sv with worker := some w' } callers := by
  obtain ⟨new, hg⟩ := Worker.gains_stepLoop hs
  obtain ⟨⟨ph, ph', -, -, hphases⟩, -⟩ := Worker.stepLoop_phases hs
  refine h.setWorker hw hg ((kept_roster p cs).loop hw hs h.roster) ?_
    (.stepLoop hs)
  simpa [Worker.phases] using congrArg List.length hphases

lemma stepCall (h : Crowd cs late site sv callers)
    (hw : sv.worker = some w)
    (hs : Worker.stepCall p site w i = some (site', w')) :
    Crowd cs late site' { sv with worker := some w' } callers := by
  obtain ⟨new, hg⟩ := Worker.gains_stepCall hs
  obtain ⟨hphases, -⟩ := Worker.stepCall_phases hs
  refine h.setWorker hw hg ((kept_roster p cs).call hw hs h.roster) ?_
    (.stepCall hs)
  simpa [Worker.phases] using congrArg List.length hphases

/-! ### Moves of a group -/

/-- The group of handlers that were told to stop is replaced. -/
lemma setShutdown (h : Crowd cs late site sv callers) {group : Nat}
    {d d' : Shutdown} (hd : sv.shutdowns[group]? = some d)
    (hc : d'.components = d.components) (he : site.Enters es site')
    (hes : ∀ e ∈ es, e.started? = none ∧ e.published? = none)
    (hp : d'.Prompt site.now site'.journal.told)
    (hres : d.result?.isSome = true → d'.result?.isSome = true) :
    Crowd cs late site'
      { sv with shutdowns := sv.shutdowns.set group d' } callers := by
  have hroster : OnRoster cs 1 site'
      { sv with shutdowns := sv.shutdowns.set group d' }
      (.returned (.ok ())) :=
    OnRoster.enters (Roster.setShutdown h.roster hd hc) he hes
  obtain ⟨hsd, hset⟩ := Roster.set_shutdowns h.roster hd d'
  exact { h with
    standing := hroster.2
    hasHalted := h.hasHalted
    groups := h.groups.setShutdown hsd hset (by rwa [he.now]) hres }

lemma stopTask (h : Crowd cs late site sv callers) {group : Nat}
    {d d' : Shutdown} (hd : sv.shutdowns[group]? = some d)
    (hs : Shutdown.stepTask site d i = some (site', d')) :
    Crowd cs late site'
      { sv with shutdowns := sv.shutdowns.set group d' } callers := by
  obtain ⟨es, he, hp, hes⟩ :=
    (h.groups.groups d (List.mem_of_getElem? hd)).stepTask hs
  rw [← he.told] at hp
  refine h.setShutdown hd (Shutdown.components_stepTask hs) he
    (fun e hmem => ?_) hp fun hres => ?_
  · rcases hes e hmem with ⟨c, rfl⟩ | ⟨c, rfl⟩ <;> exact ⟨rfl, rfl⟩
  · rwa [Shutdown.result?_stepTask hs]

lemma wait (h : Crowd cs late site sv callers) {group : Nat}
    {d d' : Shutdown} (hd : sv.shutdowns[group]? = some d)
    (hs : Shutdown.stepWait site.now d = some d') : Crowd cs late site
      { sv with shutdowns := sv.shutdowns.set group d' } callers := by
  refine h.setShutdown hd (Shutdown.components_stepWait hs) (.refl site)
    (fun e he => by cases he)
    ((h.groups.groups d (List.mem_of_getElem? hd)).stepWait hs)
    fun hres => ?_
  rw [Shutdown.stepWait_of_finished hres] at hs
  cases hs

/-! ### Moves of a caller -/

/-- The handlers that are at work are told to stop by a caller who joins
the others. -/
lemma closes (h : Crowd cs false site sv (A ++ B))
    (hleft : ∀ w, sv.worker = some w → w.IsLeft)
    (hc : Closes site.now sv sv' call) :
    Crowd cs true site sv' (A ++ call :: B) := by
  have hroster : OnRoster cs 1 site sv' call :=
    h.standing.closes Nat.one_pos hc
  have hgroups : GroupsAwaited site sv' (A ++ call :: B) :=
    h.groups.closes (Roster.shutdowns_eq_nil h.roster) hc
      (fun c hmem => mem_middle.2 (.inr hmem)) (mem_middle.2 (.inl rfl))
  have hown : call.HasHalted sv' := by
    cases hc <;> trivial
  have hothers : ∀ c ∈ A ++ B, c.HasHalted sv' := fun c hmem => by
    have hhalted := h.hasHalted c hmem
    cases c with
    | startup | returned | unwound => trivial
    | takedown t =>
      cases t with
      | stoppingWorker | abortingWorker =>
        rwa [ServiceCall.HasHalted, hc.worker_eq]
      | stoppingHandlers => trivial
  exact {
    past := forall_mem_middle.2 ⟨hc.isOfStartup_eq, h.past⟩
    standing := hroster.standing Nat.one_pos
    single := fun w hw => h.single w (hc.worker_eq ▸ hw)
    hasHalted := forall_mem_middle.2 ⟨hown, hothers⟩
    groups := hgroups
    down := fun _ =>
      .inr ⟨hc.active_eq, fun w hw => hleft w (hc.worker_eq ▸ hw)⟩ }

/-- Taking the service down goes on with its worker for one caller, while
the others keep to what they wait for. -/
lemma await {halt : Halt} {t : Halt → Takedown}
    (h : Crowd cs late site sv callers)
    (hsub : ∀ c ∈ A ++ B, c ∈ callers)
    (hkeep : ∀ i, .takedown (.stoppingHandlers i) ∈ callers →
      .takedown (.stoppingHandlers i) ∈ A ++ B)
    (hw : sv.worker = some w) (hsame : w.SameTasks w')
    (hdown : w.ComesDown w')
    (hhalts : ServiceCall.halts (.takedown (t halt)) = [halt])
    (hleft : halt = .returned → w'.IsLeft)
    (hhalted : halt ≠ .returned → ServiceCall.HasHalted
      { sv with worker := some w' } (.takedown (t halt)))
    (ha : Awaits site.now sv w' t halt sv' call) :
    Crowd cs true site sv' (A ++ call :: B) := by
  have hstanding := h.standing.setWorker hw hsame.table
  have hsingle : w'.loops.length = 1 :=
    hsame.length_loops.trans (h.single w hw)
  have hothers : ∀ c ∈ A ++ B,
      c.HasHalted { sv with worker := some w' } := fun c hc =>
    (h.hasHalted c (hsub c hc)).setWorker hw hdown
  cases ha with
  | waits hh =>
    exact {
      past := forall_mem_middle.2
        ⟨rfl, fun c hmem => h.past c (hsub c hmem)⟩
      standing := hstanding
      single := fun w₁ hw₁ => Option.some.inj hw₁ ▸ hsingle
      hasHalted := forall_mem_middle.2 ⟨hhalted hh, hothers⟩
      groups := h.groups.congr rfl rfl rfl fun i hi =>
        mem_middle.2 (.inr (hkeep i hi))
      down := fun _ => .inl ⟨_, mem_middle.2 (.inl rfl), by simp [hhalts]⟩ }
  | goesOn hc =>
    have h' : Crowd cs false site { sv with worker := some w' } (A ++ B) := {
      past := fun c hmem => h.past c (hsub c hmem)
      standing := hstanding
      single := fun w₁ hw₁ => Option.some.inj hw₁ ▸ hsingle
      hasHalted := hothers
      groups := h.groups.congr rfl rfl rfl hkeep
      down := fun hno => by cases hno }
    exact h'.closes (fun w₁ hw₁ => Option.some.inj hw₁ ▸ hleft rfl) hc

/-- A caller leaves the worker behind. -/
lemma leave {halt : Halt} {deadline : Nat}
    (h : Crowd cs late site sv
      (A ++ .takedown (.abortingWorker halt deadline) :: B))
    (hc : Closes site.now sv sv' call) :
    Crowd cs true site sv' (A ++ call :: B) := by
  obtain ⟨hleft, hhalted⟩ := forall_mem_middle.1 h.hasHalted
  have h' : Crowd cs false site sv (A ++ B) := {
    past := (forall_mem_middle.1 h.past).2
    standing := h.standing
    single := h.single
    hasHalted := hhalted
    groups := h.groups.congr rfl rfl rfl fun i hi =>
      (mem_middle.1 hi).resolve_left fun heq =>
        Takedown.noConfusion (ServiceCall.takedown.inj heq)
    down := fun hno => by cases hno }
  exact h'.closes hleft hc

/-- The handlers have stopped, and who has waited for them returns. -/
lemma returns {r : Except ServiceError Unit}
    (h : Crowd cs late site sv (A ++ .takedown (.stoppingHandlers i) :: B))
    (hr : (sv.shutdownResult? i).isSome = true) :
    Crowd cs late site sv (A ++ .returned r :: B) := by
  obtain ⟨d, hd, hres⟩ : ∃ d, sv.shutdowns[i]? = some d
      ∧ d.result?.isSome = true := by
    obtain ⟨r, hr⟩ := Option.isSome_iff_exists.1 hr
    obtain ⟨d, hd, hres⟩ := Option.bind_eq_some_iff.1 hr
    exact ⟨d, hd, by rw [hres]; rfl⟩
  exact {
    past := forall_mem_middle.2 ⟨rfl, (forall_mem_middle.1 h.past).2⟩
    standing := h.standing
    single := h.single
    hasHalted := forall_mem_middle.2
      ⟨trivial, (forall_mem_middle.1 h.hasHalted).2⟩
    groups := { h.groups with
      awaited := .inl (by
        rw [(Roster.set_shutdowns h.roster hd d).1]
        exact List.forall_mem_singleton.2 hres) }
    down := fun hlate => (h.down hlate).imp_left (.replace rfl) }

/-- A caller goes on with taking the service down. -/
lemma takedown {t : Takedown}
    (h : Crowd cs late site sv (A ++ .takedown t :: B))
    (hm : TakedownMove site.now sv t sv' call) :
    Crowd cs late site sv' (A ++ call :: B) := by
  have hsub : ∀ c ∈ A ++ B, c ∈ A ++ .takedown t :: B := fun c hc =>
    mem_middle.2 (.inr hc)
  have hhalted := h.hasHalted _ (mem_middle.2 (.inl rfl))
  -- who does not wait for handlers is not among those who do
  have hkeep : (∀ i, t ≠ .stoppingHandlers i) → ∀ i,
      .takedown (.stoppingHandlers i) ∈ A ++ .takedown t :: B →
      ServiceCall.takedown (.stoppingHandlers i) ∈ A ++ B := by
    intro hne i hi
    rcases mem_middle.1 hi with heq | hi
    · exact absurd (ServiceCall.takedown.inj heq).symm (hne i)
    · exact hi
  cases hm with
  | finished hw hr ha =>
    obtain ⟨rfl, hrun⟩ := hhalted
    obtain ⟨hover, rfl⟩ := Worker.resume_exited hr
    have hdown := Worker.ComesDown.resume hr
    have hleft := Worker.isLeft_of_loopIsOver (hrun _ hw) (h.single _ hw)
      hover
    exact (h.await hsub (hkeep fun _ => Takedown.noConfusion) hw (.resume hr)
      hdown rfl (fun _ => hdown.isLeft hleft) (fun hne => absurd rfl hne)
      ha).of_late
  | abort hw hr hdue ha =>
    obtain ⟨rfl, hrun⟩ := hhalted
    obtain ⟨k, hk⟩ := Worker.exists_current?_of_resume hr
    have hleft := Worker.isLeft_beginAbort hk (h.single _ hw)
    refine (h.await hsub (hkeep fun _ => Takedown.noConfusion) hw
      (.beginAbort _) (.beginAbort hk) rfl (fun _ => hleft) (fun _ => ?_)
      ha).of_late
    exact fun _ hw₁ => Option.some.inj hw₁ ▸ hleft
  | gone hw hr ha =>
    have hdown := Worker.ComesDown.resume hr
    have hleft := hdown.isLeft (hhalted _ hw)
    refine (h.await hsub (hkeep fun _ => Takedown.noConfusion) hw
      (.resume hr) hdown rfl (fun _ => hleft) (fun _ => ?_) ha).of_late
    exact fun _ hw₁ => Option.some.inj hw₁ ▸ hleft
  | leave hw hr hdue hc => exact (h.leave hc).of_late
  | stopped hr => exact h.returns (by rw [hr]; rfl)

/-- A further caller stops the service. -/
lemma stop (h : Crowd cs late site sv callers) :
    Crowd cs true site (Takedown.begin site sv).service
      (callers ++ [(Takedown.begin site sv).call]) := by
  rcases (Takedown.begin_cases site sv).2 with ⟨hw, hc⟩ | ⟨w, hw, ha⟩
  · have h' : Crowd cs false site sv (callers ++ []) := by
      rw [List.append_nil]
      exact { h with down := fun hno => by cases hno }
    exact h'.closes (fun w hw' => by rw [hw] at hw'; cases hw') hc
  · have hsub : ∀ c, c ∈ callers ++ [] ↔ c ∈ callers := by simp
    -- a worker that was taken up has a loop to wait for
    have hhalt := Worker.beginStop_snd (h.single w hw)
    refine h.await (fun c => (hsub c).1) (fun _ => (hsub _).2) hw
      (.beginStop w) (.beginStop w) rfl (fun hret => ?_) (fun _ => ?_) ha
    · rw [hhalt] at hret
      cases hret
    · refine ⟨hhalt, fun w₁ hw₁ => Option.some.inj hw₁ ▸ ?_⟩
      rw [w.beginStop_eq.1]

/-! ### All moves -/

/-- Every move keeps the crowd. -/
theorem move (hm : ServiceMove p s s')
    (h : Crowd cs late s.site s.service s.callers) :
    Crowd cs late s'.site s'.service s'.callers := by
  cases hm with
  | loop hw hs => exact h.stepLoop hw hs
  | call hw hs => exact h.stepCall hw hs
  | stop hd hs => exact h.stopTask hd hs
  | wait hd hs => exact h.wait hd hs
  | @caller i c c' hc hs =>
    obtain ⟨A, B, hcallers, hset⟩ := exists_eq_middle hc
    rw [hcallers] at h
    refine Crowd.noteReturn ?_ i c'.call
    show Crowd cs late c'.site c'.service (s.callers.set i c'.call)
    rw [hset]
    cases c with
    | startup | unwound => cases h.past _ (mem_middle.2 (.inl rfl))
    | takedown t =>
      obtain ⟨hsite, hm⟩ := Takedown.step_cases hs
      rw [hsite]
      exact h.takedown hm
    | returned r => cases hs

end Crowd

/-! ### What is left -/

/-- A service has let go of all that it has brought up: every handler was
told to stop, and the worker is not to go on. -/
structure Released (s : ServiceSystem σ) : Prop where
  active : s.service.active = .empty
  /-- Every handler was told to stop as often as it has started. -/
  told : ∀ c, s.site.journal.told.count c = s.site.journal.started.count c
  stopped : ∀ d ∈ s.service.shutdowns, d.result?.isSome = true
  left : ∀ w, s.service.worker = some w → w.IsLeft

/-- When all callers have returned, of which one called for a stop after
the startup had returned. -/
theorem Crowd.released (h : Crowd cs true s.site s.service s.callers)
    (hover : ∀ c ∈ s.callers, c.isOver = true) : s.Released := by
  obtain ⟨hactive, hleft⟩ :=
    (h.down rfl).resolve_left (not_awaitsWorker hover)
  have hfinished := h.groups.awaited.resolve_right fun ⟨i, hi⟩ =>
    Bool.noConfusion (hover _ hi)
  exact {
    active := hactive
    told := fun c => by
      rcases Roster.shutdowns h.roster with hnil | ⟨d, hsd, hd, -⟩
      · rw [h.groups.untold hnil,
          Roster.started_eq_nil h.roster Nat.one_pos hnil hactive]
      · have hmem : d ∈ s.service.shutdowns := by simp [hsd]
        rw [(h.groups.groups d hmem).count_of_finished (hfinished d hmem), hd]
    stopped := hfinished
    left := hleft }

end ServiceSystem

end RemoteOps
