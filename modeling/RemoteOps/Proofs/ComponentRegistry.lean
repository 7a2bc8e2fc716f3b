/-
Which components a registry runs, and how often.

A registry runs the names in the order of their registration, and under
each name the component that was registered last.  So a component whose
name is registered again is never run, and the last one of a name is run
once for every component of the name.

* `ComponentRegistry.ordered_ofList`: who is run, and in which order;
* `ComponentRegistry.count_map_standIn`: how often a component is run;
* `ComponentRegistry.runs_ofList`: what a start and a stop of all
  components come to, and that they run each of them once exactly if no
  name is registered twice.
-/
import Mathlib.Data.List.Induction
import Mathlib.Data.List.Nodup
import Mathlib.Tactic.Lemma
import RemoteOps.ComponentRegistry

namespace RemoteOps.ComponentRegistry

/-- The registry of some components, each of a type, in the order of their
registration. -/
def ofList (rs : List (String × Component)) : ComponentRegistry :=
  rs.foldl (fun r e => r.register e.1 e.2) empty

/-- The component of a name that is the last of some. -/
def latest? (cs : List Component) (name : String) : Option Component :=
  cs.reverse.find? (·.name = name)

/-- Who is run in the place of a component: the last one of its name. -/
def standIn (cs : List Component) (c : Component) : Component :=
  (latest? cs c.name).getD c

/-- The components that were told to begin, in order. -/
def Run.begun (r : Run) : List Component :=
  (r.marks.filter (·.mark = .begins)).map (·.component)

variable {cs : List Component} {c c' : Component} {name : String}

/-! ### The last component of a name -/

lemma latest?_eq_some (h : latest? cs name = some c) :
    c ∈ cs ∧ c.name = name :=
  ⟨List.mem_reverse.1 (List.mem_of_find?_eq_some h),
    by simpa using List.find?_some h⟩

lemma exists_latest? (h : c ∈ cs) : ∃ c', latest? cs c.name = some c' := by
  rw [← Option.isSome_iff_exists, latest?, List.find?_isSome]
  exact ⟨c, List.mem_reverse.2 h, by simp⟩

lemma standIn_eq_iff (h : c' ∈ cs) :
    standIn cs c' = c ↔ latest? cs c'.name = some c := by
  obtain ⟨c₀, h₀⟩ := exists_latest? h
  rw [standIn, h₀, Option.getD_some, Option.some.injEq]

/-- A component whose name is registered once is its own last one. -/
lemma latest?_of_nodup (hn : (cs.map (·.name)).Nodup) (h : c ∈ cs) :
    latest? cs c.name = some c := by
  obtain ⟨c₀, h₀⟩ := exists_latest? h
  obtain ⟨hmem, hname⟩ := latest?_eq_some h₀
  rw [h₀, List.inj_on_of_nodup_map hn hmem h hname]

lemma map_standIn_of_nodup (hn : (cs.map (·.name)).Nodup) :
    cs.map (standIn cs) = cs := by
  calc cs.map (standIn cs)
      = cs.map id := List.map_congr_left fun c hc =>
        (standIn_eq_iff hc).2 (latest?_of_nodup hn hc)
    _ = cs := List.map_id cs

/-- The last component of a name stands in for all of the name, and no
other one stands in for any. -/
lemma count_map_standIn : (cs.map (standIn cs)).count c
    = if latest? cs c.name = some c then cs.countP (·.name = c.name)
      else 0 := by
  rw [List.count_eq_countP, List.countP_map]
  split
  · next hlast =>
    refine List.countP_congr fun c' hc' => ?_
    rw [Function.comp_apply, beq_iff_eq, standIn_eq_iff hc',
      decide_eq_true_iff]
    constructor
    · intro h
      exact (latest?_eq_some h).2.symm
    · intro h
      rw [h, hlast]
  · next hlast =>
    refine List.countP_eq_zero.2 fun c' hc' => ?_
    rw [Function.comp_apply, beq_iff_eq, standIn_eq_iff hc']
    intro h
    rw [(latest?_eq_some h).2] at hlast
    exact hlast h

/-- Each component is run once exactly if no name is registered twice. -/
lemma count_eq_one_iff_nodup :
    (∀ c ∈ cs, (cs.map (standIn cs)).count c = 1)
      ↔ (cs.map (·.name)).Nodup := by
  have hcount : ∀ name, (cs.map (·.name)).count name
      = cs.countP (·.name = name) := by
    intro name
    rw [List.count_eq_countP, List.countP_map]
    refine List.countP_congr fun c _ => ?_
    simp
  constructor
  · intro h
    refine List.nodup_iff_count_le_one.2 fun name => ?_
    by_cases hname : name ∈ cs.map (·.name)
    · obtain ⟨c, hc, rfl⟩ := List.mem_map.1 hname
      have hone := h c hc
      rw [count_map_standIn] at hone
      split at hone
      · exact Nat.le_of_eq ((hcount c.name).trans hone)
      · cases hone
    · rw [List.count_eq_zero_of_not_mem hname]
      exact Nat.zero_le 1
  · intro hn c hc
    rw [count_map_standIn, if_pos (latest?_of_nodup hn hc), ← hcount]
    exact List.count_eq_one_of_mem hn (List.mem_map_of_mem hc)

/-! ### Registered components -/

lemma ofList_append (rs : List (String × Component))
    (e : String × Component) :
    ofList (rs ++ [e]) = (ofList rs).register e.1 e.2 := by
  rw [ofList, List.foldl_append]
  rfl

lemma order_ofList (rs : List (String × Component)) :
    (ofList rs).order = (rs.map (·.2)).map (·.name) := by
  induction rs using List.reverseRecOn with
  | nil => rfl
  | append_singleton rs e ih =>
    rw [ofList_append, register, ih, List.map_append, List.map_append]
    rfl

/-- A name is looked up among the registered components from the last one
on. -/
lemma byName?_ofList (rs : List (String × Component)) (name : String) :
    (ofList rs).byName? name = latest? (rs.map (·.2)) name := by
  induction rs using List.reverseRecOn with
  | nil => rfl
  | append_singleton rs e ih =>
    rw [ofList_append, byName?_register, ih, latest?, latest?,
      List.map_append, List.reverse_append]
    by_cases hname : name = e.2.name
    · simp [hname]
    · simp [hname, Ne.symm hname]

/-- The last components of the names are run, in the order of
registration. -/
theorem ordered_ofList (rs : List (String × Component)) :
    (ofList rs).ordered
      = (rs.map (·.2)).map (standIn (rs.map (·.2))) := by
  rw [ordered, order_ofList, List.filterMap_map]
  refine List.filterMap_eq_map_iff_forall_eq_some.2 fun c hc => ?_
  rw [Function.comp_apply, byName?_ofList]
  exact (standIn_eq_iff hc).1 rfl

/-! ### Runs -/

lemma ending_runPhase (phase : Component → Phase) (now : Nat)
    (c : Component) : (runPhase phase now c).ending = (phase c).ending := by
  rw [runPhase]
  cases (phase c).ending <;> rfl

/-- A phase that is run begins, however it ends. -/
lemma begun_runPhase (phase : Component → Phase) (now : Nat)
    (c : Component) : (runPhase phase now c).begun = [c] := by
  rw [runPhase]
  cases (phase c).ending <;> rfl

lemma begun_append (ending : Ending) (time : Nat) (r r' : Run) :
    Run.begun ⟨ending, time, r.marks ++ r'.marks⟩ = r.begun ++ r'.begun := by
  rw [Run.begun, List.filter_append, List.map_append, Run.begun, Run.begun]

/-- Where every start succeeds, all components are started in order. -/
lemma startList_of_success {now : Nat}
    (h : ∀ c ∈ cs, c.startPhase.ending = .success) :
    (startList now cs).ending = .success
      ∧ (startList now cs).begun = cs := by
  induction cs generalizing now with
  | nil => exact ⟨rfl, rfl⟩
  | cons c cs ih =>
    obtain ⟨hc, hcs⟩ := List.forall_mem_cons.1 h
    have hend := ending_runPhase (·.startPhase) now c
    rw [startList, if_pos (hend.trans hc), begun_append, begun_runPhase]
    obtain ⟨hrest, hbegun⟩ := @ih (runPhase (·.startPhase) now c).time hcs
    exact ⟨hrest, by rw [hbegun]; rfl⟩

/-- Unless a stop ends abnormally, all components are stopped in order,
whichever fail. -/
lemma begun_stopList {now : Nat}
    (h : ∀ c ∈ cs, c.stopPhase.ending ≠ .panic) :
    (stopList now cs).begun = cs := by
  induction cs generalizing now with
  | nil => rfl
  | cons c cs ih =>
    obtain ⟨hc, hcs⟩ := List.forall_mem_cons.1 h
    have hend := ending_runPhase (·.stopPhase) now c
    rw [stopList, if_neg (hend ▸ hc), begun_append, begun_runPhase, ih hcs]
    rfl

lemma ending_stopList {now : Nat}
    (h : ∀ c ∈ cs, c.stopPhase.ending = .success) :
    (stopList now cs).ending = .success := by
  induction cs generalizing now with
  | nil => rfl
  | cons c cs ih =>
    obtain ⟨hc, hcs⟩ := List.forall_mem_cons.1 h
    have hend := (ending_runPhase (·.stopPhase) now c).trans hc
    rw [stopList, if_neg (by rw [hend]; exact Ending.noConfusion)]
    show (if (stopList _ cs).ending = .success then _ else _) = _
    rw [ih hcs, if_pos rfl, hend]

/-- Starting and then stopping all components runs, in the place of each
registered component, the last one of its name, in the order of
registration and in the opposite one.  A component that is the last one of
its name is run as often as the name was registered, any other one never.
So each component is run once, in order, exactly if no name is registered
twice. -/
theorem runs_ofList (rs : List (String × Component)) (now : Nat)
    (hok : ∀ c ∈ rs.map (·.2), c.startPhase.ending = .success
      ∧ c.stopPhase.ending = .success)
    (hdistinct : (rs.map (·.2)).Nodup) :
    let cs := rs.map (·.2)
    let up := (ofList rs).startAll now
    let down := (ofList rs).stopAll up.time
    up.ending = .success ∧ down.ending = .success
      ∧ up.begun = cs.map (standIn cs)
      ∧ down.begun = (cs.map (standIn cs)).reverse
      ∧ (∀ c ∈ cs, up.begun.count c = down.begun.count c
        ∧ up.begun.count c = if latest? cs c.name = some c
          then cs.countP (·.name = c.name) else 0)
      ∧ ((∀ c ∈ cs, up.begun.count c = 1 ∧ down.begun.count c = 1)
        ↔ (cs.map (·.name)).Nodup)
      ∧ (up.begun = cs ∧ down.begun = cs.reverse
        ↔ (cs.map (·.name)).Nodup) := by
  intro cs up down
  have hstandIn : ∀ c ∈ cs.map (standIn cs),
      c.startPhase.ending = .success ∧ c.stopPhase.ending = .success := by
    intro c hc
    obtain ⟨c', hc', heq⟩ := List.mem_map.1 hc
    exact hok c (latest?_eq_some ((standIn_eq_iff hc').1 heq)).1
  have hordered : (ofList rs).ordered = cs.map (standIn cs) :=
    ordered_ofList rs
  obtain ⟨hup, hbegun⟩ : up.ending = .success
      ∧ up.begun = cs.map (standIn cs) := by
    show (startList now (ofList rs).ordered).ending = _
      ∧ (startList now (ofList rs).ordered).begun = _
    rw [hordered]
    exact startList_of_success fun c hc => (hstandIn c hc).1
  obtain ⟨hdown, hbegun'⟩ : down.ending = .success
      ∧ down.begun = (cs.map (standIn cs)).reverse := by
    show (stopList up.time (ofList rs).ordered.reverse).ending = _
      ∧ (stopList up.time (ofList rs).ordered.reverse).begun = _
    rw [hordered]
    have hstop : ∀ c ∈ (cs.map (standIn cs)).reverse,
        c.stopPhase.ending = .success :=
      fun c hc => (hstandIn c (List.mem_reverse.1 hc)).2
    refine ⟨ending_stopList hstop, begun_stopList fun c hc => ?_⟩
    rw [hstop c hc]
    exact Ending.noConfusion
  have hcount : ∀ c, down.begun.count c = up.begun.count c := by
    intro c
    rw [hbegun, hbegun', List.count_reverse]
  refine ⟨hup, hdown, hbegun, hbegun', fun c _ => ⟨(hcount c).symm, ?_⟩,
    ?_, ?_⟩
  · rw [hbegun, count_map_standIn]
  · rw [← count_eq_one_iff_nodup, ← hbegun]
    refine forall₂_congr fun c _ => ?_
    rw [hcount, and_self_iff]
  · rw [hbegun, hbegun', List.reverse_inj, and_self_iff]
    constructor
    · -- distinct components that all stand in their own place are counted
      -- once
      intro heq
      rw [← count_eq_one_iff_nodup, heq]
      exact fun c hc => List.count_eq_one_of_mem hdistinct hc
    · exact map_standIn_of_nodup

/-- Two components of one name. -/
def namesakes : List (String × Component) :=
  [("clock", { uid := 0, name := "time" }),
    ("radio", { uid := 1, name := "time" })]

/-- The first of them is never run, the second one twice. -/
theorem runs_namesakes :
    let cs := namesakes.map (·.2)
    let up := (ofList namesakes).startAll 0
    let down := (ofList namesakes).stopAll up.time
    up.ending = .success ∧ down.ending = .success
      ∧ up.begun.map (·.uid) = [1, 1] ∧ down.begun.map (·.uid) = [1, 1]
      ∧ ¬ (up.begun = cs ∧ down.begun = cs.reverse) := by
  have h := runs_ofList namesakes 0 (by decide) (by decide)
  obtain ⟨hup, hdown, hbegun, hbegun', -, -, hiff⟩ := h
  refine ⟨hup, hdown, ?_, ?_, ?_⟩
  · rw [hbegun]
    decide
  · rw [hbegun']
    decide
  · rw [hiff]
    decide

end RemoteOps.ComponentRegistry
