/-
A service that is started once and stopped by any number of callers, who
do not wait for one another.

A stop acts on what the startup has taken up by then.  One that is called
while the startup still goes on finds nothing and returns at once; what
the startup takes up afterwards runs on.  One that is called after the
startup has returned tells all handlers to stop and the worker to go on no
more, and brings the worker down unless it does not let itself be cut off.

* `ServiceSystem.Overlap`: the states of such a run;
* `ServiceSystem.Stage`, `ServiceSystem.Overlap.stage`: it is before,
  during or after the startup;
* `ServiceSystem.Overlap.stop_of_rising`: a stop that comes too early;
* `ServiceSystem.Timely`, `ServiceSystem.Overlap.of_runs`: when nobody is
  kept waiting for too long, as in the runs of the machine;
* `ServiceSystem.lost_stops`: three stops that are lost;
* `ServiceSystem.down_of_overlap`: a stop that does not come too early is
  not lost.
-/
import RemoteOps.Proofs.Service.Runs
import RemoteOps.Proofs.Service.Thorough

namespace RemoteOps

variable {σ : Type} {p : Platform σ} {now : Nat} {world : σ}
  {config : Config} {hasInventory : Bool} {cs : List Handler}

/-- A stop that finds nothing returns at once. -/
lemma Takedown.begin_of_bare {sv : Service} (site : Site σ)
    (h : sv.worker = none) (ha : sv.active = .empty) :
    begin site sv = ⟨site, sv, .returned (.ok ())⟩ := by
  obtain ⟨config, hasInventory, candidates, begun, active, worker,
    shutdowns⟩ := sv
  obtain rfl : worker = none := h
  obtain rfl : active = .empty := ha
  rfl

namespace ServiceSystem

variable {s s' : ServiceSystem σ} {starter : Option Nat} {late : Bool}
  {timely : Prop} {mayPass : ServiceSystem σ → Nat → Prop}

/-- A run in which a service is started by one caller and stopped by any
number of others.  They call at any time, the tasks take their steps in any
order, the state of the platform changes in any way, and the clock moves on
whenever a condition on the present state and on the time lets it.  The run
is `late` if a stop was called after the startup had returned. -/
inductive Overlap (p : Platform σ)
    (mayPass : ServiceSystem σ → Nat → Prop) (now : Nat) (world : σ)
    (config : Config) (hasInventory : Bool) (cs : List Handler) :
    Option Nat → Bool → ServiceSystem σ → Prop
  | fresh : Overlap p mayPass now world config hasInventory cs none false {
      site := { now, world }
      service := { config, hasInventory, candidates := cs } }
  | start {late : Bool} {s : ServiceSystem σ}
    (h : Overlap p mayPass now world config hasInventory cs none late s) :
    Overlap p mayPass now world config hasInventory cs
      (some s.callers.length) late (start p s)
  | stop {starter : Option Nat} {late : Bool} {s : ServiceSystem σ}
    (h : Overlap p mayPass now world config hasInventory cs starter late s) :
    Overlap p mayPass now world config hasInventory cs starter
      (late || starter.any (hasReturned · s)) s.stop
  | step {starter : Option Nat} {late : Bool} {s s' : ServiceSystem σ}
    {t : ServiceTask}
    (h : Overlap p mayPass now world config hasInventory cs starter late s)
    (hs : step p s t = some s') :
    Overlap p mayPass now world config hasInventory cs starter late s'
  | pass {starter : Option Nat} {late : Bool} {s : ServiceSystem σ}
    {now' : Nat}
    (h : Overlap p mayPass now world config hasInventory cs starter late s)
    (hp : mayPass s now') :
    Overlap p mayPass now world config hasInventory cs starter late
      (s.setNow now')
  | outside {starter : Option Nat} {late : Bool} {s : ServiceSystem σ}
    (h : Overlap p mayPass now world config hasInventory cs starter late s)
    (world' : σ) :
    Overlap p mayPass now world config hasInventory cs starter late
      (s.withWorld world')

/-- The first stop that does not come too early. -/
lemma Overlap.stop_of_hasReturned {k : Nat}
    (h : Overlap p mayPass now world config hasInventory cs (some k) late s)
    (hr : s.hasReturned k = true) :
    Overlap p mayPass now world config hasInventory cs (some k) true
      s.stop := by
  have h' := h.stop
  rwa [Option.any_some, hr, Bool.or_true] at h'

/-- All later ones. -/
lemma Overlap.stop_of_late
    (h : Overlap p mayPass now world config hasInventory cs starter true s) :
    Overlap p mayPass now world config hasInventory cs starter true
      s.stop := by
  have h' := h.stop
  rwa [Bool.true_or] at h'

/-! ### Before, during and after the startup -/

/-- A service that nobody has started yet; all stops have returned. -/
structure Unbegun (config : Config) (hasInventory : Bool)
    (cs : List Handler) (s : ServiceSystem σ) : Prop where
  service : s.service = { config, hasInventory, candidates := cs }
  isOver : ∀ c ∈ s.callers, c.isOver = true
  /-- The site is as it was, up to what a startup does not look at. -/
  bracket : ∀ call, FirstCall config call → Bracket cs 0 s.site
    { config, hasInventory, candidates := cs, begun := true } call

/-- How far a service is in such a run.  If the run is `timely`, nobody
leaves the worker behind.  A startup that has come to an abnormal end is
one that does not go on any more. -/
inductive Stage (timely : Prop) (config : Config) (hasInventory : Bool)
    (cs : List Handler) : Option Nat → Bool → ServiceSystem σ → Prop
  | unbegun {s : ServiceSystem σ} (h : Unbegun config hasInventory cs s) :
    Stage timely config hasInventory cs none false s
  | rising {k : Nat} {call : ServiceCall} {s : ServiceSystem σ}
    (hp : s.Sole k call) (hcall : call.isOfStartup = true)
    (hb : Bracket cs 0 s.site s.service call) :
    Stage timely config hasInventory cs (some k) false s
  | past {k : Nat} {r : Except ServiceError Unit} {late : Bool}
    {s : ServiceSystem σ} (hr : s.answer? k = some r)
    (h : Crowd cs late s.site s.service s.callers)
    (ht : timely → Thorough late s.site.now s.service s.callers) :
    Stage timely config hasInventory cs (some k) late s

/-- When the startup has returned and nobody else goes on. -/
lemma Stage.of_bracket {k : Nat} {r : Except ServiceError Unit}
    (hr : s.answer? k = some r)
    (h : Bracket cs 0 s.site s.service (.returned r))
    (hsingle : ∀ w, s.service.worker = some w → w.loops.length = 1)
    (hover : ∀ c ∈ s.callers, c.isOver = true) :
    Stage timely config hasInventory cs (some k) false s :=
  .past hr (.of_bracket h hsingle hover) fun _ =>
    .of_forall_isOver hover h.attended.engaged

namespace Unbegun

variable (h : Unbegun config hasInventory cs s)

include h

lemma step_eq_none (t : ServiceTask) : step p s t = none := by
  cases hs : step p s t with
  | none => rfl
  | some s' =>
    exfalso
    have hworker : s.service.worker = none := by rw [h.service]
    have hgroups : s.service.shutdowns = [] := by rw [h.service]
    cases step_cases hs with
    | loop hw | call hw =>
      rw [hworker] at hw
      cases hw
    | stop hd | wait hd =>
      rw [hgroups] at hd
      cases hd
    | @caller i c c' hc hs =>
      have hover := h.isOver c (List.mem_of_getElem? hc)
      cases c with
      | returned r => cases hs
      | startup | takedown | unwound => cases hover

/-- Time passes. -/
lemma clock (now : Nat) : Unbegun config hasInventory cs (s.setNow now) where
  service := h.service
  isOver := h.isOver
  bracket call hcall := (h.bracket call hcall).clock
    (fun g hg => by cases hg) (by cases hcall <;> trivial)

lemma stop : Unbegun config hasInventory cs s.stop := by
  have hb : Takedown.begin s.site s.service
      = ⟨s.site, s.service, .returned (.ok ())⟩ :=
    Takedown.begin_of_bare _ (by rw [h.service]) (by rw [h.service])
  refine ⟨?_, fun c hc => ?_, fun call hcall => ?_⟩
  · rw [ServiceSystem.stop, hb]
    exact h.service
  · rw [callers_stop, hb] at hc
    rcases List.mem_append.1 hc with hc | hc
    · exact h.isOver c hc
    · rw [List.mem_singleton.1 hc]
      rfl
  · rw [ServiceSystem.stop, hb]
    exact (h.bracket call hcall).noted _

/-- The startup begins. -/
lemma start : Stage timely config hasInventory cs (some s.callers.length)
    false (ServiceSystem.start p s) := by
  have hbegun : s.service.begun = false := by rw [h.service]
  obtain ⟨call, hb, hcall⟩ := Startup.begin_cases (p := p) s.site hbegun
  rw [h.service] at hb hcall
  have hbracket := h.bracket call hcall
  have hstart : ServiceSystem.start p s = s.join ⟨s.site,
      { config, hasInventory, candidates := cs, begun := true }, call⟩ := by
    rw [ServiceSystem.start, h.service, hb]
  rw [hstart]
  cases hcall with
  | passes =>
    refine .rising ⟨List.getElem?_concat_length, fun i c hc hopen => ?_⟩
      rfl hbracket
    have hc' : (s.callers ++ [_])[i]? = some c := hc
    rw [List.getElem?_append] at hc'
    split at hc'
    · rw [h.isOver c (List.mem_of_getElem? hc')] at hopen
      cases hopen
    · have hlt := (List.getElem?_eq_some_iff.1 hc).1
      simp [join] at hlt
      omega
  | refused =>
    refine .of_bracket (answer?_join_self _ _) (hbracket.noted _)
      (fun w hw => by cases hw) fun c hc => ?_
    rcases List.mem_append.1 hc with hc | hc
    · exact h.isOver c hc
    · rw [List.mem_singleton.1 hc]
      rfl

end Unbegun

/-- A worker that was just taken up has one loop. -/
lemma single_of_startupMove {sv sv' : Service} {u : Startup}
    {es : List Event} {call : ServiceCall}
    (hm : StartupMove now sv u es sv' call) (hw : sv.worker = none) :
    ∀ w, sv'.worker = some w → w.loops.length = 1 := by
  intro w hw'
  rcases hm.effect.worker with hsame | ⟨table, interval, hsome⟩
  · rw [hsame, hw] at hw'
    cases hw'
  · obtain rfl := Option.some.inj (hsome.symm.trans hw')
    rfl

lemma single_of_stepCall {c : ServiceCall} {c' : CallState σ}
    (hcall : c.isOfStartup = true) (hs : s.stepCall p c = some c')
    (hw : s.service.worker = none) :
    ∀ w, c'.service.worker = some w → w.loops.length = 1 := by
  cases c with
  | startup u =>
    obtain ⟨es, -, hm⟩ := Startup.step_cases hs
    exact single_of_startupMove hm hw
  | unwound => cases hs
  | takedown | returned => cases hcall

section Rising

variable {k : Nat} {call : ServiceCall} (hcall : call.isOfStartup = true)
  (hb : Bracket cs 0 s.site s.service call)

include hcall hb

/-- A stop that is called while the startup goes on finds nothing. -/
lemma begin_of_rising : Takedown.begin s.site s.service
    = ⟨s.site, s.service, .returned (.ok ())⟩ :=
  have hbare := Roster.bare hb.roster hcall
  Takedown.begin_of_bare _ hbare.worker hbare.active

/-- The startup goes on or comes to its end. -/
lemma stage_move (hp : s.Sole k call) (hm : ServiceMove p s s') :
    Stage timely config hasInventory cs (some k) false s' := by
  obtain ⟨call', hcs, hb'⟩ := (kept_bracket p cs).move_sole hm hp hb
  have hp' : s'.Sole k call' := hp.set hcs
  have hworker := (Roster.bare hb.roster hcall).worker
  cases call' with
  | startup | unwound => exact .rising hp' rfl hb'
  | takedown t => exact absurd rfl (Roster.ne_takedown hb'.roster t)
  | returned r =>
    refine .of_bracket (answer?_eq_some.2 hp'.getElem?_eq) hb'
      (fun w hw => ?_) fun c hc => ?_
    · cases hm with
      | loop hw₀ | call hw₀ =>
        rw [hworker] at hw₀
        cases hw₀
      | stop | wait => cases hworker.symm.trans hw
      | caller hc hs =>
        obtain ⟨rfl, rfl⟩ := hp.eq_of_stepCall hc hs
        exact single_of_stepCall hcall hs hworker w hw
    · by_contra hopen
      obtain ⟨i, hi⟩ := List.mem_iff_getElem?.1 hc
      obtain rfl := hp'.others i c hi (by simpa using hopen)
      obtain rfl := Option.some.inj (hi.symm.trans hp'.getElem?_eq)
      exact hopen rfl

lemma hasReturned_of_rising (hp : s.Sole k call) :
    s.hasReturned k = false := by
  rw [hasReturned, answer?, hp.getElem?_eq]
  cases call with
  | startup | unwound => rfl
  | takedown | returned => cases hcall

end Rising

namespace Stage

variable (h : Stage timely config hasInventory cs starter late s)

include h

lemma step {t : ServiceTask} (hs : ServiceSystem.step p s t = some s') :
    Stage timely config hasInventory cs starter late s' := by
  have hm := step_cases hs
  cases h with
  | unbegun h => cases (h.step_eq_none t).symm.trans hs
  | rising hp hcall hb => exact stage_move hcall hb hp hm
  | past hr h ht =>
    refine .past (answer?_of_step (.run t hs) hr) (h.move hm) fun htimely => ?_
    rw [now_of_move hm]
    exact (ht htimely).move hm h.past

/-- Time passes. -/
lemma clock {now : Nat} (htell : s.TellsInTime now)
    (hcut : timely → s.CutsInTime now) :
    Stage timely config hasInventory cs starter late (s.setNow now) := by
  cases h with
  | unbegun h => exact .unbegun (h.clock now)
  | @rising k call _ hp hcall hb =>
    refine .rising ⟨hp.getElem?_eq, hp.others⟩ hcall (hb.clock htell ?_)
    cases call with
    | startup | unwound => trivial
    | takedown | returned => cases hcall
  | past hr h ht =>
    exact .past hr (h.clock htell) fun htimely =>
      (ht htimely).clock (hcut htimely)

lemma stop : Stage timely config hasInventory cs starter
    (late || starter.any (hasReturned · s)) s.stop := by
  cases h with
  | unbegun h => exact .unbegun h.stop
  | rising hp hcall hb =>
    rw [Option.any_some, hasReturned_of_rising hcall hb hp,
      ServiceSystem.stop, begin_of_rising hcall hb]
    exact .rising (hp.join rfl) hcall (hb.noted _)
  | past hr h ht =>
    have hnow : s.stop.site.now = s.site.now := by
      rw [ServiceSystem.stop, join, now_noteReturn,
        (Takedown.begin_cases s.site s.service).1]
    refine .past (answer?_join _ hr) (Crowd.of_late ?_) fun htimely => ?_
    · show Crowd cs true
        (noteReturn (Takedown.begin s.site s.service).site _ _) _ _
      rw [(Takedown.begin_cases s.site s.service).1]
      exact h.stop.noteReturn _ _
    · rw [hnow]
      exact ((ht htimely).stop h.single).of_late

/-- Who cuts off the worker does not let the clock move. -/
lemma cutsInTime_of_idle (htimely : timely) (hidle : (machine p).Idle s)
    (now : Nat) : s.CutsInTime now := by
  have hnone : (∀ c ∈ s.callers, c.isOver = true ∨ c.isOfStartup = true) →
      s.CutsInTime now := fun hall c hc deadline hd => by
    rw [ServiceCall.cutDeadline?_eq_none (hall c hc)] at hd
    cases hd
  cases h with
  | unbegun h => exact hnone fun c hc => .inl (h.isOver c hc)
  | rising hp hcall =>
    refine hnone fun c hc => or_iff_not_imp_left.2 fun hopen => ?_
    obtain ⟨i, hi⟩ := List.mem_iff_getElem?.1 hc
    obtain rfl := hp.others i c hi (by simpa using hopen)
    obtain rfl := Option.some.inj (hi.symm.trans hp.getElem?_eq)
    exact hcall
  | past _ _ ht => exact (ht htimely).cutsInTime_of_idle hidle now

lemma outside (world : σ) : Stage timely config hasInventory cs starter late
    (s.withWorld world) := by
  cases h with
  | unbegun h =>
    exact .unbegun ⟨h.service, h.isOver, fun call hcall =>
      (h.bracket call hcall).outside world⟩
  | rising hp hcall hb =>
    exact .rising ⟨hp.getElem?_eq, hp.others⟩ hcall (hb.outside world)
  | past hr h ht => exact .past hr (h.outside world) ht

end Stage

/-- Every such run is before, during or after the startup, as long as
handlers that are to be told to stop are told in time. -/
theorem Overlap.stage
    (h : Overlap p mayPass now world config hasInventory cs starter late s)
    (htell : ∀ s now, mayPass s now → s.TellsInTime now) :
    Stage (∀ s now, mayPass s now → s.CutsInTime now) config hasInventory cs
      starter late s := by
  induction h with
  | fresh =>
    exact .unbegun ⟨rfl, fun c hc => (by cases hc), fun _ => bracket_begin⟩
  | start h ih =>
    cases ih with
    | unbegun h => exact h.start
  | stop h ih => exact ih.stop
  | step h hs ih => exact ih.step hs
  | pass h hp ih => exact ih.clock (htell _ _ hp) fun hcut => hcut _ _ hp
  | outside h world' ih => exact ih.outside world'

/-! ### Stops that are lost, and stops that are not -/

/-- A stop that is called before the startup has returned changes nothing
and returns at once. -/
theorem Overlap.stop_of_rising {k : Nat}
    (h : Overlap p mayPass now world config hasInventory cs (some k) late s)
    (htell : ∀ s now, mayPass s now → s.TellsInTime now)
    (hopen : s.hasReturned k = false) :
    s.stop.service = s.service
      ∧ s.stop.answer? s.callers.length = some (.ok ()) := by
  cases h.stage htell with
  | rising hp hcall hb =>
    rw [ServiceSystem.stop, begin_of_rising hcall hb]
    exact ⟨rfl, answer?_join_self _ _⟩
  | past hr =>
    rw [hasReturned, hr] at hopen
    cases hopen

/-- Nobody is kept waiting for too long: whoever is to be told to stop has
time left, and so has whatever is cut off. -/
def Timely (s : ServiceSystem σ) (now : Nat) : Prop :=
  s.TellsInTime now ∧ s.CutsInTime now

/-- The clock of the machine keeps nobody waiting, since it moves only when
no task can take a step. -/
lemma Overlap.of_runs
    (h : Overlap p Timely now world config hasInventory cs starter late s)
    (hr : (machine p).Runs s s') :
    Overlap p Timely now world config hasInventory cs starter late s' := by
  induction hr with
  | refl => exact h
  | tail _ hs ih =>
    cases hs with
    | run t ht => exact ih.step ht
    | wait hidle =>
      have hstage := ih.stage fun _ _ => And.left
      exact ih.pass ⟨tellsInTime_of_idle hidle _,
        hstage.cutsInTime_of_idle (fun _ _ => And.right) hidle _⟩

/-- Tasks that have their turns one after the other. -/
lemma Overlap.of_turns (fuel : Nat) (ts : List ServiceTask)
    (h : Overlap p mayPass now world config hasInventory cs starter late s) :
    Overlap p mayPass now world config hasInventory cs starter late
      (ts.foldl ((machine p).runTask fuel) s) := by
  have hturn : ∀ (fuel : Nat) (t : ServiceTask) (s : ServiceSystem σ),
      Overlap p mayPass now world config hasInventory cs starter late s →
      Overlap p mayPass now world config hasInventory cs starter late
        ((machine p).runTask fuel s t) := by
    intro fuel t
    induction fuel with
    | zero => exact fun s h => h
    | succ fuel ih =>
      intro s h
      rw [Machine.runTask]
      split
      · next s' hs => exact ih s' (h.step hs)
      · exact h
  induction ts generalizing s with
  | nil => exact h
  | cons t ts ih => exact ih (hturn fuel t s h)

/-- A service with a handler for restarts, which is to execute one. -/
def restartService : ServiceSystem (MemoryPlatform × Unit) :=
  let world : MemoryPlatform := { operations :=
    [(Operation.new "1").withFragment Kind.restart (.object [])] }
  { site := { world := (world, ()) }
    service := { config := {}, candidates :=
      [{ uid := 0, name := "restarts", kinds := [Kind.restart] }] } }

/-- Surroundings where a handler executes an operation for an hour. -/
def hourlong : Host Unit :=
  { Host.prompt with execute := fun _ _ _ => ({ delay := 3600000 }, ()) }

/-- The service is stopped while its startup is still going on, and then
comes to serve. -/
def earlyStop : ServiceSystem (MemoryPlatform × Unit) :=
  [.caller 0, .loop 0, .call 0].foldl
    ((machine hourlong.platform).runTask 20)
    (stop (start hourlong.platform restartService))

/-- It is stopped while its handler executes an operation, and the call does
not let itself be cut off. -/
def stuckStop : ServiceSystem (MemoryPlatform × Unit) :=
  let turns := fun ts s =>
    List.foldl ((machine hourlong.platform).runTask 20) s ts
  let s₁ := turns [.caller 0, .loop 0, .call 0]
    (start hourlong.platform restartService)
  let s₂ := turns [.caller 1, .loop 0, .caller 1] (s₁.stop.setNow 10000)
  turns [.caller 1, .stop 0 0, .wait 0, .caller 1] (s₂.setNow 10500)

/-- It is stopped when it serves, and the task that is to tell its handler
has its turn when the time is over. -/
def starvedStop : ServiceSystem (MemoryPlatform × Unit) :=
  let turns := fun ts s =>
    List.foldl ((machine hourlong.platform).runTask 20) s ts
  let s₁ := turns [.caller 0] (start hourlong.platform restartService)
  let s₂ := turns [.loop 0, .caller 1] s₁.stop
  turns [.wait 0, .stop 0 0, .wait 0, .caller 1] (s₂.setNow 10000)

/-- A run has led to a service whose two callers have returned. -/
def HasRun (mayPass : ServiceSystem (MemoryPlatform × Unit) → Nat → Prop)
    (late : Bool) (s : ServiceSystem (MemoryPlatform × Unit)) : Prop :=
  (∃ world cs, Overlap hourlong.platform mayPass 0 world {} true cs (some 0)
    late s) ∧ s.callers.length = 2 ∧ ∀ c ∈ s.callers, c.isOver = true

lemma hasRun_earlyStop : HasRun Timely false earlyStop :=
  ⟨⟨_, _, .of_turns 20 _ (.stop (.start .fresh))⟩, by decide +kernel,
    by decide +kernel⟩

lemma hasRun_stuckStop : HasRun TellsInTime true stuckStop := by
  refine ⟨⟨_, _, .of_turns 20 _ (.pass (.of_turns 20 _ (.pass
    (.stop_of_hasReturned (.of_turns 20 _ (.start .fresh)) ?_) ?_)) ?_)⟩,
    ?_, ?_⟩ <;> decide +kernel

lemma hasRun_starvedStop : HasRun CutsInTime true starvedStop := by
  refine ⟨⟨_, _, .of_turns 20 _ (.pass (.of_turns 20 _
    (.stop_of_hasReturned (.of_turns 20 _ (.start .fresh)) ?_)) ?_)⟩,
    ?_, ?_⟩ <;> decide +kernel

/-- Stops that are lost.  One that is called too early leaves the worker
started and a handler at work that nobody told to stop, although nobody is
kept waiting.  One that cuts off in vain leaves the worker started; and one
whose tasks have no turn in time does not tell the handler. -/
theorem lost_stops :
    (HasRun Timely false earlyStop
      ∧ earlyStop.service.workerState? = some .started
      ∧ earlyStop.site.journal.started.map (·.uid) = [0]
      ∧ earlyStop.site.journal.told = [])
      ∧ (HasRun TellsInTime true stuckStop
        ∧ stuckStop.service.workerState? = some .started)
      ∧ HasRun CutsInTime true starvedStop
        ∧ starvedStop.site.journal.started.map (·.uid) = [0]
        ∧ starvedStop.site.journal.told = [] :=
  ⟨⟨hasRun_earlyStop, by decide +kernel, by decide +kernel,
    by decide +kernel⟩, ⟨hasRun_stuckStop, by decide +kernel⟩,
    hasRun_starvedStop, by decide +kernel, by decide +kernel⟩

/-- A service that is started once and stopped at any time by any number of
callers, of whom one calls for a stop after the startup has returned.  Once
all of them have returned, every handler that has started was told to stop,
if the tasks that tell them have their turns in time, and the worker is not
to go on.  If whatever is cut off is gone in time, too, nothing that the
service has brought up keeps running. -/
theorem down_of_overlap {k : Nat}
    (h : Overlap p mayPass now world config hasInventory cs (some k) true s)
    (hover : ∀ c ∈ s.callers, c.isOver = true)
    (htell : ∀ s now, mayPass s now → s.TellsInTime now) :
    s.Released ∧ ((∀ s now, mayPass s now → s.CutsInTime now) → s.Down) := by
  cases h.stage htell with
  | past _ h ht =>
    exact ⟨h.released hover, fun hcut => h.down_of_thorough (ht hcut) hover⟩

/-- Two more stops at once bring the service down, by cutting off its
handler. -/
theorem down_earlyStop :
    let p := hourlong.platform
    let s₁ := (machine p).settle 60 earlyStop.stop.stop
    let s₂ := (machine p).settle 60 (s₁.setNow 10000)
    s₁.service.worker.any (·.calls.any (!·.isOver)) = true
      ∧ (∀ c ∈ s₂.callers, c.isOver = true) ∧ s₂.Down
      ∧ s₂.callers.length = 4
      ∧ s₂.site.journal.told.map (·.uid) = [0] := by
  intro p s₁ s₂
  obtain ⟨⟨world, cs, h⟩, -⟩ := hasRun_earlyStop
  have hr : earlyStop.hasReturned 0 = true := by decide +kernel
  have h₁ : Overlap p Timely 0 world {} true cs (some 0) true s₁ :=
    (h.stop_of_hasReturned hr).stop_of_late.of_runs
      (Machine.settle_runs 60 _)
  have hpass : Timely s₁ 10000 := ⟨by decide +kernel, by decide +kernel⟩
  have h₂ : Overlap p Timely 0 world {} true cs (some 0) true s₂ :=
    (h₁.pass hpass).of_runs (Machine.settle_runs 60 _)
  have hover : ∀ c ∈ s₂.callers, c.isOver = true := by decide +kernel
  obtain ⟨-, hdown⟩ := down_of_overlap h₂ hover fun _ _ => And.left
  exact ⟨by decide +kernel, hover, hdown fun _ _ => And.right,
    by decide +kernel, by decide +kernel⟩

end ServiceSystem

end RemoteOps
