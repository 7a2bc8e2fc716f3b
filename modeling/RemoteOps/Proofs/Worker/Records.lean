/-
What the loops of a worker do with the operations that they are handed, on
any platform.

Callers may start, stop and abort the worker at any time, so that even
several loops may be alive; each of them has a record of what it does.

* `WorkerSystem.Recorded`: runs in any order, with a record for each loop;
  `WorkerSystem.exists_recorded`: no move is left out;
* `WorkerSystem.IsRecorded`: what a loop has done fits its phase;
* `WorkerSystem.Undisturbed`: a loop that nobody has told to exit goes on;
* `WorkerSystem.Accounts`: nothing happens beside the records;
* `WorkerSystem.lawfully_of_recorded`: what the records of a run show.
-/
import Mathlib.Data.List.Perm.Subperm
import RemoteOps.Platform.Scripted
import RemoteOps.Proofs.Worker.Deeds
import RemoteOps.Proofs.Worker.GracefulStop

namespace RemoteOps

/-! ### Records -/

/-- What is known of a loop. -/
structure LoopRecord where
  /-- How many callers there had been when it was started. -/
  callers : Nat
  /-- What it has done since. -/
  deeds : List Deed := []

/-- A record with some more deeds. -/
def LoopRecord.add (r : LoopRecord) (l : List Deed) : LoopRecord :=
  { r with deeds := r.deeds ++ l }

namespace WorkerSystem

variable {σ : Type} {p : Platform σ} {table : HandlerTable}
  {interval : Span} {s s' : WorkerSystem σ} {records : List LoopRecord}

/-- What happens beside the loops and their calls of handlers. -/
inductive Aside (s : WorkerSystem σ) : WorkerSystem σ → Prop where
  | caller {i : Nat} {c c' : Halt} {w : Worker}
    (hc : s.callers[i]? = some c) (hr : s.worker.resume c = some (w, c')) :
    Aside s { s with
      site := noteReturn s.site i c'
      worker := w
      callers := s.callers.set i c' }
  | clock (now : Nat) : Aside s (s.setNow now)
  | stop : Aside s s.stop
  | abort : Aside s s.abort
  | release : Aside s s.release
  | destroy :
    Aside s { s with worker := s.worker.destroy, destroyed := true }
  | outside (world : σ) : Aside s (s.withWorld world)

/-- The runs of a worker, whoever calls it and in whichever order its
tasks take their steps, with a record for each loop. -/
inductive Recorded (p : Platform σ) (table : HandlerTable)
    (interval : Span) : WorkerSystem σ → List LoopRecord → Prop where
  | new {site : Site σ} (hj : site.journal = []) :
    Recorded p table interval { site, worker := .new table interval } []
  | start {s s' : WorkerSystem σ} {records : List LoopRecord}
    (h : Recorded p table interval s records) (hs : s.start? = some s') :
    Recorded p table interval s' (records ++ [⟨s.callers.length, []⟩])
  | loop {s : WorkerSystem σ} {records : List LoopRecord} {i : Nat}
    {site : Site σ} {w : Worker} {new : List Event}
    (h : Recorded p table interval s records)
    (hs : Worker.stepLoop p s.site s.worker i = some (site, w))
    (hc : site.journal.calls = s.site.journal.calls ++ new) :
    Recorded p table interval { s with site, worker := w }
      (records.modify i
        (·.add (new.map .asked ++ Worker.callsSince s.worker w)))
  | call {s : WorkerSystem σ} {records : List LoopRecord} {n : Nat}
    {site : Site σ} {w : Worker}
    (h : Recorded p table interval s records)
    (hs : Worker.stepCall p s.site s.worker n = some (site, w)) :
    Recorded p table interval { s with site, worker := w } records
  | aside {s s' : WorkerSystem σ} {records : List LoopRecord}
    (h : Recorded p table interval s records) (hs : Aside s s') :
    Recorded p table interval s' records

/-- No move is left out: whatever happens to a worker with records, there
are records of it. -/
theorem exists_recorded (h : Recorded p table interval s records)
    (hm : Move p (fun _ => True) s s') :
    ∃ records', Recorded p table interval s' records' := by
  cases hm with
  | step hs =>
    cases hs with
    | run t ht =>
      cases step_cases ht with
      | loop hl =>
        obtain ⟨new, hg⟩ := Worker.gains_stepLoop hl
        exact ⟨_, h.loop hl hg.calls⟩
      | call hc => exact ⟨_, h.call hc⟩
      | caller hc hr => exact ⟨_, h.aside (.caller hc hr)⟩
      | destroy => exact ⟨_, h.aside .destroy⟩
    | wait => exact ⟨_, h.aside (.clock _)⟩
  | start _ hs => exact ⟨_, h.start hs⟩
  | stop => exact ⟨_, h.aside .stop⟩
  | abort => exact ⟨_, h.aside .abort⟩
  | release => exact ⟨_, h.aside .release⟩
  | clock => exact ⟨_, h.aside (.clock _)⟩

/-- So it is with a run of the tasks. -/
lemma Recorded.exists_of_runs (h : Recorded p table interval s records)
    (hr : (machine p).Runs s s') :
    ∃ records', Recorded p table interval s' records' := by
  induction hr with
  | refl => exact ⟨records, h⟩
  | tail _ hs ih =>
    obtain ⟨records', h'⟩ := ih
    exact exists_recorded h' (.step hs)

/-- What happens aside leaves every task and every call where it is. -/
lemma Aside.same (h : Aside s s') : s.worker.SameTasks s'.worker
    ∧ s'.site.journal.calls = s.site.journal.calls := by
  cases h with
  | caller _ hr => exact ⟨.resume hr, calls_noteReturn _ _ _⟩
  | stop => exact ⟨.beginStop _, calls_noteReturn _ _ _⟩
  | abort => exact ⟨.beginAbort _, calls_noteReturn _ _ _⟩
  | destroy => exact ⟨.destroy _, rfl⟩
  | clock | release | outside => exact ⟨⟨rfl, rfl, rfl, rfl⟩, rfl⟩

/-- Unless somebody stops or aborts the worker, or it is destroyed, nothing
aside concerns the loops. -/
lemma Aside.undisturbed (h : Aside s s') :
    s.callers.length ≤ s'.callers.length
      ∧ (s'.callers.length = s.callers.length → s'.destroyed = false →
        s'.worker.loops = s.worker.loops
          ∧ s'.worker.running = s.worker.running
          ∧ s.destroyed = false) := by
  cases h with
  | caller _ hr =>
    refine ⟨(List.length_set).ge, fun _ hd => ?_⟩
    cases Worker.resume_cases hr with
    | stopped | nothing | gone | cut => exact ⟨rfl, rfl, hd⟩
  | stop | abort =>
    have hlen : ∀ c, (s.callers ++ [c]).length = s.callers.length + 1 :=
      fun c => List.length_append
    refine ⟨?_, fun heq => ?_⟩
    · exact (Nat.le_succ _).trans (hlen _).ge
    · exact absurd ((hlen _).symm.trans heq) (Nat.succ_ne_self _)
  | destroy => exact ⟨Nat.le_refl _, fun _ hd => by cases hd⟩
  | clock | release | outside =>
    exact ⟨Nat.le_refl _, fun _ hd => ⟨rfl, rfl, hd⟩⟩

/-! ### What records show -/

/-- The step of a loop, as its record has it. -/
lemma move_of_stepLoop {i : Nat} {site : Site σ} {w : Worker}
    {new : List Event}
    (hs : Worker.stepLoop p s.site s.worker i = some (site, w))
    (hc : site.journal.calls = s.site.journal.calls ++ new) :
    ∃ ph ph', s.worker.phases[i]? = some ph
      ∧ w.phases = s.worker.phases.set i ph' ∧ w.table = s.worker.table
      ∧ ∀ deeds, Doing s.worker.table deeds ph →
        Doing s.worker.table
          (deeds ++ (new.map .asked ++ Worker.callsSince s.worker w)) ph' := by
  obtain ⟨l, hl, -, hcases⟩ := Worker.stepLoop_cases hs
  have hi := Worker.phases_getElem? hl
  rcases hcases with ⟨-, rfl, rfl⟩ | ⟨-, es, w₁, seen, ph', hm, hg, -, rfl⟩
  · obtain rfl : new = [] := by simpa using hc
    refine ⟨l.phase, .exited, hi, Worker.phases_setLoop .., rfl,
      fun deeds hd => ?_⟩
    have hcalls : (s.worker.setLoop i l .exited).calls = s.worker.calls := rfl
    rw [Worker.callsSince_eq_nil hcalls, List.map_nil, List.append_nil,
      List.append_nil]
    exact hd.lawful
  · obtain rfl : es = new := List.append_cancel_left (hg.calls.symm.trans hc)
    obtain ⟨hloops, -, -, -, htable⟩ := Worker.loops_of_loopMove hm
    have hphases : (w₁.setLoop i { l with seen } ph').phases
        = s.worker.phases.set i ph' := by
      rw [Worker.phases_setLoop, Worker.phases, hloops, Worker.phases]
    refine ⟨l.phase, ph', hi, hphases, htable, fun deeds hd => ?_⟩
    have hphase : (w₁.setLoop i { l with seen } ph').phases[i]?
        = some ph' := by
      rw [hphases, List.getElem?_set_self (List.getElem?_eq_some_iff.1 hi).1]
    have hd' := hd.loopMove hm fun due o o' due' hph hph' hnew =>
      Worker.canBecome_of_stepLoop hs hl hph
        (hphase.trans (congrArg some hph')) (hnew ▸ hc)
    exact hd'

/-- There is one record for each loop, and it says what the loop is
doing. -/
structure IsRecorded (table : HandlerTable) (phases : List LoopPhase)
    (records : List LoopRecord) : Prop where
  length : records.length = phases.length
  doing : ∀ (i : Nat) ph r, phases[i]? = some ph → records[i]? = some r →
    Doing table r.deeds ph

namespace IsRecorded

variable {phases : List LoopPhase}

/-- A loop is started. -/
lemma start (h : IsRecorded table phases records) (callers : Nat) :
    IsRecorded table (phases ++ [.spawned])
      (records ++ [⟨callers, []⟩]) where
  length := by simp [h.length]
  doing i ph r hi hr := by
    by_cases hlt : i < phases.length
    · rw [List.getElem?_append_left hlt] at hi
      rw [List.getElem?_append_left (h.length ▸ hlt)] at hr
      exact h.doing i ph r hi hr
    · rw [List.getElem?_append_right (by omega)] at hi
      rw [List.getElem?_append_right (by rw [h.length]; omega)] at hr
      rw [List.mem_singleton.1 (List.mem_of_getElem? hi),
        List.mem_singleton.1 (List.mem_of_getElem? hr)]
      exact Lawful.nil

/-- A loop goes on. -/
lemma loop (h : IsRecorded table phases records) {i : Nat}
    {ph ph' : LoopPhase} {l : List Deed} (hi : phases[i]? = some ph)
    (hd : ∀ deeds, Doing table deeds ph → Doing table (deeds ++ l) ph') :
    IsRecorded table (phases.set i ph') (records.modify i (·.add l)) where
  length := by simp [h.length]
  doing k ph₁ r hk hr := by
    rw [List.getElem?_modify] at hr
    obtain ⟨r₀, hr₀, rfl⟩ := Option.map_eq_some_iff.1 hr
    by_cases hik : i = k
    · subst hik
      rw [List.getElem?_set_self (List.getElem?_eq_some_iff.1 hi).1,
        Option.some.injEq] at hk
      subst hk
      simpa [LoopRecord.add] using hd r₀.deeds (h.doing i ph r₀ hi hr₀)
    · rw [List.getElem?_set_ne hik] at hk
      simpa [hik] using h.doing k ph₁ r₀ hk hr₀

end IsRecorded

lemma Recorded.isRecorded (h : Recorded p table interval s records) :
    s.worker.table = table ∧ IsRecorded table s.worker.phases records := by
  induction h with
  | new => exact ⟨rfl, rfl, fun i ph r hi => by simp at hi⟩
  | start _ hs ih =>
    obtain ⟨w, hw, rfl⟩ := Option.map_eq_some_iff.1 hs
    obtain ⟨htab, hphases, -⟩ := Worker.tasks_start? hw
    refine ⟨htab.trans ih.1, ?_⟩
    show IsRecorded table w.phases _
    rw [hphases]
    exact ih.2.start _
  | loop _ hs hc ih =>
    obtain ⟨ph, ph', hi, hphases, htab, hd⟩ := move_of_stepLoop hs hc
    rw [ih.1] at hd
    refine ⟨htab.trans ih.1, ?_⟩
    dsimp only
    rw [hphases]
    exact ih.2.loop hi hd
  | call _ hs ih =>
    exact ⟨(Worker.table_stepCall hs).trans ih.1,
      (Worker.stepCall_phases hs).1 ▸ ih.2⟩
  | aside _ hs ih =>
    have hsame := hs.same.1
    exact ⟨hsame.table.trans ih.1, hsame.phases ▸ ih.2⟩

/-! ### Loops that nobody stops -/

/-- A loop exits only if the worker is not to go on, or if it is cut
off. -/
lemma live_of_stepLoop {i : Nat} {site : Site σ} {w : Worker}
    (hs : Worker.stepLoop p s.site s.worker i = some (site, w))
    (hrun : s.worker.running = true) :
    ∃ l l', s.worker.loops[i]? = some l
      ∧ w.loops = s.worker.loops.set i l' ∧ w.running = true
      ∧ (l.aborted = false → l'.phase ≠ .exited ∧ l'.aborted = false) := by
  obtain ⟨l, hl, -, hcases⟩ := Worker.stepLoop_cases hs
  rcases hcases with ⟨ha, -, rfl⟩ | ⟨ha, es, w₁, seen, ph', hm, -, -, rfl⟩
  · refine ⟨l, { l with phase := .exited }, hl, rfl, hrun, fun hno => ?_⟩
    rw [ha] at hno
    cases hno
  · obtain ⟨hloops, -, -, hrun', -⟩ := Worker.loops_of_loopMove hm
    refine ⟨l, { l with seen, phase := ph' }, hl, ?_, hrun'.trans hrun,
      fun _ => ⟨Worker.ne_exited_of_loopMove hm hrun, ha⟩⟩
    show w₁.loops.set i _ = _
    rw [hloops]

/-- Since its start nobody has told a loop to exit, and it has not. -/
structure Undisturbed (w : Worker) (l : PollLoop) : Prop where
  live : l.phase ≠ .exited
  kept : l.aborted = false
  running : w.running = true

/-- A step of any loop disturbs none. -/
lemma Undisturbed.stepLoop {i k : Nat} {site : Site σ} {w : Worker}
    {l l' : PollLoop} (h : Undisturbed s.worker l)
    (hl : s.worker.loops[i]? = some l)
    (hs : Worker.stepLoop p s.site s.worker k = some (site, w))
    (hl' : w.loops[i]? = some l') : Undisturbed w l' := by
  obtain ⟨l₁, l₁', hl₁, hloops, hrun, hlive⟩ :=
    live_of_stepLoop hs h.running
  rw [hloops] at hl'
  by_cases hki : k = i
  · subst hki
    obtain rfl : l₁ = l := Option.some.inj (hl₁.symm.trans hl)
    rw [List.getElem?_set_self (List.getElem?_eq_some_iff.1 hl₁).1,
      Option.some.injEq] at hl'
    subst hl'
    obtain ⟨hne, ha⟩ := hlive h.kept
    exact ⟨hne, ha, hrun⟩
  · rw [List.getElem?_set_ne hki, hl, Option.some.injEq] at hl'
    subst hl'
    exact ⟨h.live, h.kept, hrun⟩

lemma Recorded.length (h : Recorded p table interval s records) :
    records.length = s.worker.loops.length := by
  rw [h.isRecorded.2.length, Worker.phases, List.length_map]

lemma Recorded.exists_loop (h : Recorded p table interval s records)
    {i : Nat} {r : LoopRecord} (hr : records[i]? = some r) :
    ∃ l, s.worker.loops[i]? = some l :=
  ⟨_, List.getElem?_eq_getElem
    (h.length ▸ (List.getElem?_eq_some_iff.1 hr).1)⟩

/-- A loop goes on until somebody tells the worker to stop or to abort, or
lets go of it. -/
lemma Recorded.undisturbed (h : Recorded p table interval s records)
    {i : Nat} {l : PollLoop} {r : LoopRecord}
    (hl : s.worker.loops[i]? = some l) (hr : records[i]? = some r) :
    r.callers ≤ s.callers.length
      ∧ (s.callers.length = r.callers → s.destroyed = false →
        Undisturbed s.worker l) := by
  induction h generalizing i l r with
  | new => cases hr
  | @start s s' records h hs ih =>
    obtain ⟨w, hw, rfl⟩ := Option.map_eq_some_iff.1 hs
    obtain ⟨-, rfl⟩ := Worker.start?_eq_some hw
    by_cases hlt : i < records.length
    · rw [List.getElem?_append_left (h.length ▸ hlt)] at hl
      rw [List.getElem?_append_left hlt] at hr
      obtain ⟨hle, hun⟩ := ih hl hr
      exact ⟨hle, fun heq hd => { hun heq hd with running := rfl }⟩
    · rw [List.getElem?_append_right (by rw [← h.length]; omega)] at hl
      rw [List.getElem?_append_right (by omega)] at hr
      rw [List.mem_singleton.1 (List.mem_of_getElem? hl),
        List.mem_singleton.1 (List.mem_of_getElem? hr)]
      exact ⟨Nat.le_refl _, fun _ _ => ⟨LoopPhase.noConfusion, rfl, rfl⟩⟩
  | @loop s records k site w new h hs hc ih =>
    obtain ⟨r₀, hr₀, hcallers⟩ : ∃ r₀, records[i]? = some r₀
        ∧ r.callers = r₀.callers := by
      rw [List.getElem?_modify] at hr
      obtain ⟨r₀, hr₀, rfl⟩ := Option.map_eq_some_iff.1 hr
      refine ⟨r₀, hr₀, ?_⟩
      split <;> rfl
    obtain ⟨l₀, hl₀⟩ := h.exists_loop hr₀
    obtain ⟨hle, hun⟩ := ih hl₀ hr₀
    rw [hcallers]
    exact ⟨hle, fun heq hd => (hun heq hd).stepLoop hl₀ hs hl⟩
  | call _ hs ih =>
    obtain ⟨c, es, ph, -, -, -, rfl⟩ := Worker.stepCall_cases hs
    obtain ⟨hle, hun⟩ := ih hl hr
    exact ⟨hle, fun heq hd =>
      ⟨(hun heq hd).live, (hun heq hd).kept, (hun heq hd).running⟩⟩
  | aside h hs ih =>
    obtain ⟨l₀, hl₀⟩ := h.exists_loop hr
    obtain ⟨hle, hun⟩ := ih hl₀ hr
    obtain ⟨hle', hsame⟩ := hs.undisturbed
    refine ⟨hle.trans hle', fun heq hd => ?_⟩
    obtain ⟨hloops, hrun, hd₀⟩ := hsame (by omega) hd
    rw [hloops, hl₀, Option.some.injEq] at hl
    subst hl
    have hun₀ := hun (by omega) hd₀
    exact ⟨hun₀.live, hun₀.kept, hrun.trans hun₀.running⟩

/-! ### Nothing is left out -/

/-- What all records have of a sort. -/
def gathered (f : Deed → Option Event) (records : List LoopRecord) :
    List Event :=
  records.flatMap fun r => r.deeds.filterMap f

/-- What a loop goes on to do is gathered too. -/
lemma gathered_modify (f : Deed → Option Event) {i : Nat}
    (hi : i < records.length) (l : List Deed) :
    (gathered f (records.modify i (·.add l))).Perm
      (gathered f records ++ l.filterMap f) := by
  induction records generalizing i with
  | nil => cases hi
  | cons r records ih =>
    cases i with
    | zero =>
      simp only [gathered, List.modify_zero_cons, List.flatMap_cons,
        LoopRecord.add, List.filterMap_append, List.append_assoc]
      exact List.perm_append_comm.append_left _
    | succ i =>
      simp only [gathered, List.modify_succ_cons, List.flatMap_cons,
        List.append_assoc]
      exact (ih (Nat.lt_of_succ_lt_succ hi)).append_left _

/-- A move of a loop calls no handler by itself, but it may make a
call. -/
lemma calls_of_loopMove {w w₁ : Worker} {ph ph' : LoopPhase}
    {new : List Event} (hm : LoopMove w ph new w₁ ph') :
    (∀ e ∈ new, e.executed? = none) ∧ ∃ added,
      w₁.calls = w.calls ++ added ∧ ∀ c ∈ added, c.phase = .spawned := by
  cases hm with
  | claimed =>
    exact ⟨List.forall_mem_singleton.2 rfl, _, rfl,
      List.forall_mem_singleton.2 rfl⟩
  | begin | wake | conclude =>
    exact ⟨List.forall_mem_nil _, [], (List.append_nil _).symm,
      List.forall_mem_nil _⟩
  | pollFailed | nothing | refuse | reject | accept | rejected | unclaimed
  | reported =>
    exact ⟨List.forall_mem_singleton.2 rfl, [], (List.append_nil _).symm,
      List.forall_mem_nil _⟩

lemma calls_of_stepLoop {i : Nat} {site : Site σ} {w : Worker}
    {new : List Event}
    (hs : Worker.stepLoop p s.site s.worker i = some (site, w))
    (hc : site.journal.calls = s.site.journal.calls ++ new) :
    (∀ e ∈ new, e.executed? = none) ∧ ∃ added,
      w.calls = s.worker.calls ++ added ∧ ∀ c ∈ added, c.phase = .spawned := by
  obtain ⟨l, -, -, hcases⟩ := Worker.stepLoop_cases hs
  rcases hcases with ⟨-, rfl, rfl⟩ | ⟨-, es, w₁, seen, ph', hm, hg, -, rfl⟩
  · obtain rfl : new = [] := by simpa using hc
    exact ⟨List.forall_mem_nil _, [], (List.append_nil _).symm,
      List.forall_mem_nil _⟩
  · obtain rfl : es = new := List.append_cancel_left (hg.calls.symm.trans hc)
    obtain ⟨hnew, added, hcalls, hadded⟩ := calls_of_loopMove hm
    exact ⟨hnew, added, hcalls, hadded⟩

lemma gathered_start (f : Deed → Option Event) (records : List LoopRecord)
    (n : Nat) : gathered f (records ++ [⟨n, []⟩]) = gathered f records := by
  simp [gathered]

/-- The records account for all that was asked and for all calls of
handlers, and no call was begun twice. -/
structure Accounts (j : Journal) (w : Worker) (records : List LoopRecord) :
    Prop where
  asked : (gathered Deed.asked? records).Perm
    (j.calls.filter fun e => e.executed?.isNone)
  called : (gathered Deed.execution? records).Perm
    (w.cores.map HandlerCall.execution)
  begun : (j.calls.filter fun e => e.executed?.isSome).Subperm
    ((w.cores.filter HandlerCall.hasBegun).map HandlerCall.execution)

namespace Accounts

variable {j j' : Journal} {w w' : Worker}

/-- A loop goes on. -/
lemma loop (h : Accounts j w records) {i : Nat} (hi : i < records.length)
    {new : List Event} (hj : j'.calls = j.calls ++ new)
    (hnew : ∀ e ∈ new, e.executed? = none) {added : List HandlerCall}
    (hcalls : w'.calls = w.calls ++ added)
    (hadded : ∀ c ∈ added, c.phase = .spawned) :
    Accounts j' w'
      (records.modify i
        (·.add (new.map .asked ++ Worker.callsSince w w'))) := by
  obtain ⟨hasked, hexecution⟩ := Worker.filterMap_callsSince hcalls
  have hcores : w'.cores = w.cores ++ added.map HandlerCall.core := by
    rw [Worker.cores, hcalls, List.map_append, Worker.cores]
  refine ⟨?_, ?_, ?_⟩
  · have hmap : (new.map Deed.asked).filterMap Deed.asked? = new := by
      rw [List.filterMap_map]
      exact List.filterMap_some
    have hfilter : new.filter (fun e => e.executed?.isNone) = new :=
      List.filter_eq_self.2 fun e he => by rw [hnew e he]; rfl
    refine (gathered_modify _ hi _).trans ?_
    rw [List.filterMap_append, hmap, hasked, List.append_nil, hj,
      List.filter_append, hfilter]
    exact h.asked.append_right new
  · have hmap : (new.map Deed.asked).filterMap Deed.execution? = [] := by
      simp [List.filterMap_map, Function.comp_def, Deed.execution?]
    refine (gathered_modify _ hi _).trans ?_
    rw [List.filterMap_append, hmap, List.nil_append, hexecution, hcores,
      List.map_append, List.map_map]
    exact h.called.append_right _
  · have hfilter : new.filter (fun e => e.executed?.isSome) = [] :=
      List.filter_eq_nil_iff.2 fun e he => by rw [hnew e he]; simp
    have hbegun : (added.map HandlerCall.core).filter
        HandlerCall.hasBegun = [] := by
      refine List.filter_eq_nil_iff.2 fun c hc => ?_
      obtain ⟨c, hmem, rfl⟩ := List.mem_map.1 hc
      simp [HandlerCall.hasBegun, HandlerCall.core, hadded c hmem]
    rw [hj, List.filter_append, hfilter, List.append_nil, hcores,
      List.filter_append, hbegun, List.append_nil]
    exact h.begun

/-- A call of a handler goes on. -/
lemma call (h : Accounts j w records) {n : Nat} {c : HandlerCall}
    {new : List Event} {phase : CallPhase} (hc : w.calls[n]? = some c)
    (hm : CallMove c new phase) (hj : j'.calls = j.calls ++ new) :
    Accounts j' (w.setCall n c phase) records := by
  have hcore := Worker.cores_getElem? hc
  obtain ⟨hn, hget⟩ := List.getElem?_eq_some_iff.1 hcore
  refine ⟨?_, ?_, ?_⟩
  · have hnone : new.filter (fun e => e.executed?.isNone) = [] := by
      cases hm <;> rfl
    rw [hj, List.filter_append, hnone, List.append_nil]
    exact h.asked
  · have hmap : (w.setCall n c phase).cores.map HandlerCall.execution
        = w.cores.map HandlerCall.execution := by
      rw [Worker.cores_setCall, List.map_set]
      have hn' : n < (w.cores.map HandlerCall.execution).length := by
        rwa [List.length_map]
      have hself : (w.cores.map HandlerCall.execution).get ⟨n, hn'⟩
          = c.execution := by
        rw [List.get_eq_getElem, List.getElem_map, hget]
        rfl
      exact (congrArg _ hself.symm).trans (List.set_getElem_self hn')
    rw [hmap]
    exact h.called
  · let others := (w.cores.eraseIdx n).filter HandlerCall.hasBegun
    have hold : (w.cores.filter HandlerCall.hasBegun).Perm
        ([c.core].filter HandlerCall.hasBegun ++ others) := by
      rw [← List.filter_append]
      refine List.Perm.filter _ ?_
      rw [← hget]
      exact (List.getElem_cons_eraseIdx_perm hn).symm
    have hset : ((w.setCall n c phase).cores.filter
        HandlerCall.hasBegun).Perm ({ c.core with phase } :: others) := by
      have hbegun : HandlerCall.hasBegun { c.core with phase } = true := by
        cases hm <;> rfl
      rw [Worker.cores_setCall, ← List.filter_cons_of_pos hbegun]
      exact (List.set_perm_cons_eraseIdx hn _).filter _
    have hbegun := h.begun.trans (hold.map HandlerCall.execution).subperm
    refine List.Subperm.trans ?_ (hset.map _).symm.subperm
    rw [hj, List.filter_append]
    cases hm with
    | begin _ hph =>
      have hnot : [c.core].filter HandlerCall.hasBegun = [] := by
        simp [HandlerCall.hasBegun, HandlerCall.core, hph]
      rw [hnot, List.nil_append] at hbegun
      exact (List.perm_append_singleton _ _).subperm.trans
        ((List.subperm_cons _).2 hbegun)
    | cut | finish =>
      rw [List.filter_nil, List.append_nil]
      have hsub : ([c.core].filter HandlerCall.hasBegun ++ others).Sublist
          (c.core :: others) := List.filter_sublist.append_right others
      exact hbegun.trans (hsub.map HandlerCall.execution).subperm

end Accounts

lemma Recorded.accounts (h : Recorded p table interval s records) :
    Accounts s.site.journal s.worker records := by
  induction h with
  | new hj =>
    dsimp only
    rw [hj]
    exact ⟨.refl _, .refl _, .refl _⟩
  | start _ hs ih =>
    obtain ⟨w, hw, rfl⟩ := Option.map_eq_some_iff.1 hs
    obtain ⟨-, -, hcores⟩ := Worker.tasks_start? hw
    refine ⟨?_, ?_, ?_⟩
    · rw [gathered_start]
      exact ih.asked
    · rw [gathered_start, hcores]
      exact ih.called
    · rw [hcores]
      exact ih.begun
  | loop h hs hc ih =>
    obtain ⟨hnew, added, hcalls, hadded⟩ := calls_of_stepLoop hs hc
    obtain ⟨ph, ph', hi, -⟩ := move_of_stepLoop hs hc
    refine ih.loop ?_ hc hnew hcalls hadded
    rw [h.isRecorded.2.length]
    exact (List.getElem?_eq_some_iff.1 hi).1
  | call _ hs ih =>
    obtain ⟨c, new, ph, hc, hm, hg, rfl⟩ := Worker.stepCall_cases hs
    exact ih.call hc hm hg.calls
  | aside _ hs ih =>
    obtain ⟨hsame, hcalls⟩ := hs.same
    exact ⟨hcalls ▸ ih.asked, hsame.cores ▸ ih.called,
      hcalls ▸ hsame.cores ▸ ih.begun⟩

/-! ### Lawful runs -/

/-- What a loop asks is asked in this order. -/
lemma Recorded.sublist (h : Recorded p table interval s records) :
    ∀ r ∈ records, (r.deeds.filterMap Deed.asked?).Sublist
      s.site.journal.calls := by
  induction h with
  | new => exact List.forall_mem_nil _
  | start _ hs ih =>
    obtain ⟨w, -, rfl⟩ := Option.map_eq_some_iff.1 hs
    exact List.forall_mem_append.2
      ⟨ih, List.forall_mem_singleton.2 (List.nil_sublist _)⟩
  | @loop s records i site w new h hs hc ih =>
    intro r hr
    obtain ⟨k, hk⟩ := List.mem_iff_getElem?.1 hr
    rw [List.getElem?_modify] at hk
    obtain ⟨r₀, hr₀, rfl⟩ := Option.map_eq_some_iff.1 hk
    have hsub := ih r₀ (List.mem_of_getElem? hr₀)
    rw [hc]
    split
    · obtain ⟨-, added, hcalls, -⟩ := calls_of_stepLoop hs hc
      have hmap : (new.map Deed.asked).filterMap Deed.asked? = new := by
        rw [List.filterMap_map]
        exact List.filterMap_some
      rw [LoopRecord.add, List.filterMap_append, List.filterMap_append, hmap,
        (Worker.filterMap_callsSince hcalls).1, List.append_nil]
      exact hsub.append_right new
    · exact hsub.trans (List.sublist_append_left _ _)
  | call _ hs ih =>
    obtain ⟨c, new, ph, -, -, hg, -⟩ := Worker.stepCall_cases hs
    rw [hg.calls]
    exact fun r hr => (ih r hr).trans (List.sublist_append_left _ _)
  | aside _ hs ih =>
    rw [hs.same.2]
    exact ih

/-- What the records of a run show. -/
structure Lawfully (table : HandlerTable) (s : WorkerSystem σ)
    (records : List LoopRecord) : Prop where
  /-- Every loop has a record. -/
  length : records.length = s.worker.loops.length
  /-- Each loop has done nothing but what may be done. -/
  lawful : ∀ r ∈ records, Lawful table r.deeds
  /-- So it is with a write that is under way, whatever comes of it. -/
  sending : ∀ (i : Nat) l r o, s.worker.loops[i]? = some l →
    records[i]? = some r → l.phase.sending? = some o → ∀ a, Lawful table
      (r.deeds ++ [.asked (.status o.id o.status o.failureReason a)])
  /-- No loop exits unless the worker was told to stop or to abort after
  its start, or is gone. -/
  exited : ∀ (i : Nat) l r, s.worker.loops[i]? = some l →
    records[i]? = some r → l.phase = .exited →
    r.callers < s.callers.length ∨ s.destroyed = true
  /-- The records have what each loop has asked, in this order. -/
  sublist : ∀ r ∈ records,
    (r.deeds.filterMap Deed.asked?).Sublist s.site.journal.calls
  /-- They have all that was asked. -/
  asked : (gathered Deed.asked? records).Perm
    (s.site.journal.calls.filter fun e => e.executed?.isNone)
  /-- Handlers do nothing but what they were called for. -/
  executed : (s.site.journal.calls.filter fun e => e.executed?.isSome).Subperm
    (gathered Deed.execution? records)

/-- On any platform and however the worker is started, stopped and aborted,
its loops do nothing but what may be done with the operations that they
are handed. -/
theorem lawfully_of_recorded (h : Recorded p table interval s records) :
    Lawfully table s records where
  length := h.length
  lawful r hr := by
    obtain ⟨i, hi⟩ := List.mem_iff_getElem?.1 hr
    obtain ⟨l, hl⟩ := h.exists_loop hi
    exact (h.isRecorded.2.doing i _ r (Worker.phases_getElem? hl) hi).lawful
  sending i l r o hl hr ho a :=
    (h.isRecorded.2.doing i _ r (Worker.phases_getElem? hl) hr).sending ho a
  exited i l r hl hr hex := by
    obtain ⟨hle, hun⟩ := h.undisturbed hl hr
    rcases hle.eq_or_lt with heq | hlt
    · cases hd : s.destroyed with
      | true => exact .inr rfl
      | false => exact absurd hex (hun heq.symm hd).live
    · exact .inl hlt
  sublist := h.sublist
  asked := h.accounts.asked
  executed := by
    refine h.accounts.begun.trans (List.Subperm.trans ?_
      h.accounts.called.symm.subperm)
    exact (List.filter_sublist.map HandlerCall.execution).subperm

/-- A worker on a platform that hands out an operation that is being
executed and that nobody takes, a pending restart, this restart again, and
an operation that is done. -/
def strayPolls : WorkerSystem ScriptedPlatform :=
  let stray := { Operation.new "1" with status := .executing }
  let done := { Operation.new "2" with status := .successful }
  let restart := (Operation.new "3").withFragment Kind.restart (.object [])
  { site := { world := {
      memory := { operations := [stray, done, restart] }
      nextPolls := [.ok (some stray), .ok (some restart),
        .ok (some restart), .ok (some done)] } }
    worker := .new (.ofRegistrations [⟨restarter, restarter.kinds⟩])
      (.ofMillis 100) }

/-- The stray one is failed, the restart is executed each time, nothing is
written to the one that is done, and the loop goes on. -/
theorem lawfully_strayPolls :
    let p := ScriptedPlatform.platform
    let s := (machine p).settle 60 (strayPolls.start?.getD strayPolls)
    ∃ records, Recorded p strayPolls.worker.table (.ofMillis 100) s records
      ∧ Lawfully strayPolls.worker.table s records
      ∧ s.site.journal.statuses "1" = [.failed]
      ∧ s.site.journal.statuses "2" = []
      ∧ s.site.journal.statuses "3"
        = [.executing, .successful, .executing, .successful]
      ∧ s.site.journal.executions "3" = 2
      ∧ s.worker.loopIsOver 0 = false := by
  intro p s
  have hstart : Recorded p strayPolls.worker.table (.ofMillis 100)
      (strayPolls.start?.getD strayPolls) [⟨0, []⟩] :=
    .start (.new rfl) rfl
  obtain ⟨records, h⟩ := hstart.exists_of_runs (Machine.settle_runs 60 _)
  exact ⟨records, h, lawfully_of_recorded h, by decide +kernel,
    by decide +kernel, by decide +kernel, by decide +kernel,
    by decide +kernel⟩

end WorkerSystem

end RemoteOps
