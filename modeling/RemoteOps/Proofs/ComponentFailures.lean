/-
What the failures of components come to when a registry runs them.

Starting ends with the first component that does not succeed.  Stopping
goes on to the last one, and of all that fail the one that was registered
first gives the result, since it is stopped last.

* `ComponentRegistry.failsFast_startList`: starting some components;
* `ComponentRegistry.inTurn_stopList`: no stop begins before the one
  before it is over;
* `ComponentRegistry.failsLate_stopList`: stopping some components;
* `ComponentRegistry.withstands_failures`: both for a registry whose
  components have distinct names.
-/
import Mathlib.Data.List.Chain
import RemoteOps.Proofs.ComponentRegistry

namespace RemoteOps

/-- When a phase is over that begins with a mark. -/
def MarkEntry.over (phase : Component → Phase) (e : MarkEntry) : Nat :=
  Clock.after e.time (phase e.component).delay

namespace ComponentRegistry

variable {phase : Component → Phase} {cs before after : List Component}
  {c : Component} {now : Nat}

/-! ### The first failure -/

/-- A component whose phase does not succeed, the first one of some, after
those of which it does. -/
structure FirstFails (phase : Component → Phase)
    (cs before : List Component) (c : Component) : Prop where
  split : ∃ after, cs = before ++ c :: after
  smooth : ∀ c' ∈ before, (phase c').ending = .success
  fails : (phase c).ending ≠ .success

/-- Unless all succeed, some component is the first that does not. -/
lemma exists_firstFails (h : ¬ ∀ c ∈ cs, (phase c).ending = .success) :
    ∃ before c, FirstFails phase cs before c := by
  cases hf : cs.find? fun c => (phase c).ending ≠ .success with
  | none => exact absurd (by simpa using hf) h
  | some c =>
    obtain ⟨hc, before, after, hcs, hbefore⟩ :=
      List.find?_eq_some_iff_append.1 hf
    exact ⟨before, c, ⟨after, hcs⟩, by simpa using hbefore,
      by simpa using hc⟩

/-! ### Starting -/

/-- A run that ends with the first component that does not succeed. -/
structure FailsFast (phase : Component → Phase) (cs : List Component)
    (r : Run) : Prop where
  smooth : (∀ c ∈ cs, (phase c).ending = .success) →
    r.begun = cs ∧ r.ending = .success
  first : ∀ before c, FirstFails phase cs before c →
    r.begun = before ++ [c] ∧ r.ending = (phase c).ending

/-- Components before the first failure are started, and so is the one
that fails. -/
lemma startList_of_failure
    (hbefore : ∀ c' ∈ before, c'.startPhase.ending = .success)
    (hc : c.startPhase.ending ≠ .success) (now : Nat)
    (after : List Component) :
    (startList now (before ++ c :: after)).begun = before ++ [c]
      ∧ (startList now (before ++ c :: after)).ending
        = c.startPhase.ending := by
  induction before generalizing now with
  | nil =>
    have hend := ending_runPhase (·.startPhase) now c
    rw [List.nil_append, startList, if_neg (hend ▸ hc)]
    exact ⟨begun_runPhase _ now c, hend⟩
  | cons a before ih =>
    obtain ⟨ha, hrest⟩ := List.forall_mem_cons.1 hbefore
    have hend := ending_runPhase (·.startPhase) now a
    obtain ⟨hbegun, hending⟩ :=
      ih hrest (runPhase (·.startPhase) now a).time
    rw [List.cons_append, startList, if_pos (hend.trans ha), begun_append,
      begun_runPhase]
    exact ⟨by rw [hbegun]; rfl, hending⟩

/-- Starting ends with the first component that fails. -/
theorem failsFast_startList (now : Nat) (cs : List Component) :
    FailsFast (·.startPhase) cs (startList now cs) where
  smooth := fun h => (startList_of_success h).symm
  first := by
    rintro before c ⟨⟨after, rfl⟩, hbefore, hc⟩
    exact startList_of_failure hbefore hc now after

/-! ### One after the other -/

/-- The marks with which phases begin, in order. -/
def Run.beginnings (r : Run) : List MarkEntry :=
  r.marks.filter (·.mark = .begins)

/-- Phases that are run one after the other: none begins before the one
before it is over. -/
def Run.InTurn (phase : Component → Phase) (r : Run) : Prop :=
  r.beginnings.IsChain fun e e' => e.over phase ≤ e'.time

lemma time_runPhase (phase : Component → Phase) (now : Nat)
    (c : Component) : (runPhase phase now c).time
      = MarkEntry.over phase ⟨now, .begins, c⟩ := by
  rw [runPhase]
  cases (phase c).ending <;> rfl

lemma beginnings_runPhase (phase : Component → Phase) (now : Nat)
    (c : Component) :
    (runPhase phase now c).beginnings = [⟨now, .begins, c⟩] := by
  rw [runPhase]
  cases (phase c).ending <;> rfl

lemma beginnings_append (ending : Ending) (time : Nat) (r r' : Run) :
    Run.beginnings ⟨ending, time, r.marks ++ r'.marks⟩
      = r.beginnings ++ r'.beginnings := List.filter_append ..

/-- Stops that do not end abnormally begin with the first one, and go on
when it is over. -/
lemma beginnings_stopList (hc : c.stopPhase.ending ≠ .panic) (now : Nat)
    (cs : List Component) :
    (stopList now (c :: cs)).beginnings = ⟨now, .begins, c⟩
      :: (stopList (MarkEntry.over (·.stopPhase) ⟨now, .begins, c⟩)
        cs).beginnings := by
  have hend := ending_runPhase (·.stopPhase) now c
  rw [stopList, if_neg (hend ▸ hc), beginnings_append, beginnings_runPhase,
    time_runPhase]
  rfl

/-- No stop begins before the one before it is over. -/
lemma inTurn_stopList (h : ∀ c ∈ cs, c.stopPhase.ending ≠ .panic) :
    (stopList now cs).InTurn (·.stopPhase)
      ∧ ∀ e ∈ (stopList now cs).beginnings.head?, now ≤ e.time := by
  induction cs generalizing now with
  | nil => exact ⟨.nil, fun _ he => by cases he⟩
  | cons c cs ih =>
    obtain ⟨hc, hcs⟩ := List.forall_mem_cons.1 h
    obtain ⟨hchain, hhead⟩ :=
      @ih (MarkEntry.over (·.stopPhase) ⟨now, .begins, c⟩) hcs
    rw [Run.InTurn, beginnings_stopList hc]
    refine ⟨List.isChain_cons.2 ⟨hhead, hchain⟩, fun e he => ?_⟩
    obtain rfl := Option.some.inj he
    exact Nat.le_refl now

/-! ### Stopping -/

/-- A run through all components in the opposite order, one after the
other, whichever fail.  Of those that fail the first one gives the
result. -/
structure FailsLate (phase : Component → Phase) (cs : List Component)
    (r : Run) : Prop where
  begun : r.begun = cs.reverse
  inTurn : r.InTurn phase
  smooth : r.ending = .success ↔ ∀ c ∈ cs, (phase c).ending = .success
  first : ∀ before c, FirstFails phase cs before c →
    r.ending = (phase c).ending

/-- The last failure is the result of a stop. -/
lemma ending_stopList_append
    (hbefore : ∀ c' ∈ before, c'.stopPhase.ending ≠ .panic)
    (hc : c.stopPhase.ending ≠ .success)
    (hc' : c.stopPhase.ending ≠ .panic)
    (hafter : ∀ c' ∈ after, c'.stopPhase.ending = .success) (now : Nat) :
    (stopList now (before ++ c :: after)).ending = c.stopPhase.ending := by
  induction before generalizing now with
  | nil =>
    have hend := ending_runPhase (·.stopPhase) now c
    rw [List.nil_append, stopList, if_neg (hend ▸ hc')]
    show (if (stopList _ after).ending = .success then _ else _) = _
    rw [if_pos (ending_stopList hafter), hend]
  | cons a before ih =>
    obtain ⟨ha, hrest⟩ := List.forall_mem_cons.1 hbefore
    have hend := ending_runPhase (·.stopPhase) now a
    have hlast := ih hrest (runPhase (·.stopPhase) now a).time
    rw [List.cons_append, stopList, if_neg (hend ▸ ha)]
    show (if (stopList _ (before ++ c :: after)).ending = .success
      then _ else _) = _
    -- whatever this one ends with, the failure that comes later counts
    rw [if_neg (hlast ▸ hc), hlast]

/-- The first component that fails is the last one of them to be
stopped. -/
lemma ending_stopList_reverse
    (h : ∀ c ∈ cs, c.stopPhase.ending ≠ .panic)
    (hf : FirstFails (·.stopPhase) cs before c) (now : Nat) :
    (stopList now cs.reverse).ending = c.stopPhase.ending := by
  obtain ⟨⟨after, rfl⟩, hbefore, hc⟩ := hf
  -- in the opposite order those that succeed come after it
  have hreverse : (before ++ c :: after).reverse
      = after.reverse ++ c :: before.reverse := by simp
  rw [hreverse]
  refine ending_stopList_append (fun c' hc' => h c' ?_) hc (h c ?_)
    (fun c' hc' => hbefore c' (List.mem_reverse.1 hc')) now
  · have hmem := List.mem_reverse.1 hc'
    simp [hmem]
  · simp

/-- Stopping goes on to the last component, whichever fail. -/
theorem failsLate_stopList (now : Nat)
    (h : ∀ c ∈ cs, c.stopPhase.ending ≠ .panic) :
    FailsLate (·.stopPhase) cs (stopList now cs.reverse) := by
  have hreverse : ∀ c ∈ cs.reverse, c.stopPhase.ending ≠ .panic :=
    fun c hc => h c (List.mem_reverse.1 hc)
  refine ⟨begun_stopList hreverse, (inTurn_stopList hreverse).1, ?_,
    fun before c hf => ending_stopList_reverse h hf now⟩
  constructor
  · intro hok
    by_contra hall
    obtain ⟨before, c, hf⟩ := exists_firstFails hall
    exact hf.fails ((ending_stopList_reverse h hf now).symm.trans hok)
  · exact fun hall =>
      ending_stopList fun c hc => hall c (List.mem_reverse.1 hc)

/-! ### Registries -/

/-- Components of distinct names are run as they were registered. -/
lemma ordered_of_nodup {rs : List (String × Component)}
    (hnames : ((rs.map (·.2)).map (·.name)).Nodup) :
    (ofList rs).ordered = rs.map (·.2) := by
  rw [ordered_ofList, map_standIn_of_nodup hnames]

/-- Of components with distinct names, a start runs those up to the first
that fails, in the order of registration, and has its result.  A stop at
any later time runs each component once, in the opposite order and one
after the other, whichever fail; it succeeds exactly if all do, and else
has the result of the one that was registered first among those that
fail. -/
theorem withstands_failures (rs : List (String × Component))
    (now later : Nat) (hnames : ((rs.map (·.2)).map (·.name)).Nodup)
    (hstop : ∀ c ∈ rs.map (·.2), c.stopPhase.ending ≠ .panic) :
    let cs := rs.map (·.2)
    let down := (ofList rs).stopAll later
    FailsFast (·.startPhase) cs ((ofList rs).startAll now)
      ∧ FailsLate (·.stopPhase) cs down
      ∧ ∀ c ∈ cs, down.begun.count c = 1 := by
  intro cs down
  have hordered : (ofList rs).ordered = cs := ordered_of_nodup hnames
  have hlate : FailsLate (·.stopPhase) cs down := by
    show FailsLate (·.stopPhase) cs
      (stopList later (ofList rs).ordered.reverse)
    rw [hordered]
    exact failsLate_stopList later hstop
  refine ⟨?_, hlate, fun c hc => ?_⟩
  · rw [startAll, hordered]
    exact failsFast_startList now cs
  · rw [hlate.begun, List.count_reverse]
    exact List.count_eq_one_of_mem (List.Nodup.of_map _ hnames) hc

/-- Three components, of which the second fails to start and the first and
the third fail to stop. -/
def troubled : List (String × Component) :=
  [("store", { uid := 0, name := "inventory"
               stopPhase := ⟨30, .failure "stuck"⟩ }),
    ("radio", { uid := 1, name := "modem"
                startPhase := ⟨20, .failure "no carrier"⟩ }),
    ("radio", { uid := 2, name := "beacon"
                stopPhase := ⟨10, .failure "busy"⟩ })]

/-- The third is not started; all are stopped, and the first one gives the
result. -/
theorem withstands_failures_troubled :
    let up := (ofList troubled).startAll 0
    let down := (ofList troubled).stopAll up.time
    ((troubled.map (·.2)).map (·.name)).Nodup
      ∧ up.begun.map (·.uid) = [0, 1] ∧ up.ending = .failure "no carrier"
      ∧ down.begun.map (·.uid) = [2, 1, 0]
      ∧ down.ending = .failure "stuck" := by
  have hnames : ((troubled.map (·.2)).map (·.name)).Nodup := by decide
  obtain ⟨hfast, hlate, -⟩ := withstands_failures troubled 0
    ((ofList troubled).startAll 0).time hnames (by decide)
  have hup := hfast.first [_] _ ⟨⟨[_], rfl⟩, by decide, by decide⟩
  have hdown := hlate.first [] _ ⟨⟨[_, _], rfl⟩, by decide, by decide⟩
  refine ⟨hnames, ?_, hup.2, ?_, hdown⟩
  · rw [hup.1]
    rfl
  · rw [hlate.begun]
    rfl

end ComponentRegistry

end RemoteOps
