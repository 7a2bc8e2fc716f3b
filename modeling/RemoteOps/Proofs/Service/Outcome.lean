/-
What starting a service comes to.

The settings, the answers to the calls of the passes and the kinds of the
candidates decide whether the first startup fails, and why.  If each query
is answered with finitely many pages, it comes to an end whatever the tasks
do, and it returns unless the start of a handler comes to an abnormal end.

* `ServiceSystem.Tries.ends`, `ServiceSystem.Tries.returns`: the first
  startup comes to an end, and returns;
* `ServiceSystem.StartsOnce`, `ServiceSystem.startsOnce_of_attempts`:
  what the calls return, and what is left of a startup that failed.
-/
import RemoteOps.Proofs.Platform.Hosted
import RemoteOps.Proofs.Service.Attempts
import RemoteOps.Proofs.Service.Runs
import RemoteOps.Proofs.Service.Startup

namespace RemoteOps

namespace ServiceSystem

variable {σ : Type} {p : Platform σ} {s s' : ServiceSystem σ}
  {later : List ServiceCall}

/-! ### The group of a startup that could publish nothing -/

/-- A startup waits for the only group of handlers, and all other callers
have returned. -/
structure Undoing (later : List ServiceCall) (s : ServiceSystem σ) :
    Prop where
  callers : s.callers = .startup (.undoing 0) :: later
  later : ∀ c ∈ later, c.isOver = true
  worker : s.service.worker = none
  shutdowns : ∃ d, s.service.shutdowns = [d]

/-- How much is left to do until the first caller returns. -/
def workLeft (s : ServiceSystem σ) : Nat :=
  (s.service.shutdowns.map Shutdown.work).sum
    + if s.hasReturned 0 then 0 else 1

namespace Undoing

lemma hasReturned_eq (h : Undoing later s) : s.hasReturned 0 = false := by
  rw [hasReturned, answer?, h.callers]
  rfl

/-- A task of the group takes a step. -/
lemma setShutdown (h : Undoing later s) {group : Nat} {d d' : Shutdown}
    (hd : s.service.shutdowns[group]? = some d) (hlt : d'.work < d.work)
    (site : Site σ) :
    Undoing later ({ s with site }.setShutdown group d')
      ∧ workLeft ({ s with site }.setShutdown group d') < workLeft s := by
  obtain ⟨d₀, hsd⟩ := h.shutdowns
  have hsum := sum_map_set Shutdown.work hd d'
  refine ⟨⟨h.callers, h.later, h.worker, ?_⟩, ?_⟩
  · rw [hsd] at hd
    cases group with
    | zero => exact ⟨d', by rw [ServiceSystem.setShutdown, hsd]; rfl⟩
    | succ group => cases hd
  · show (List.map Shutdown.work (s.service.shutdowns.set group d')).sum
      + (if s.hasReturned 0 then 0 else 1) < _
    rw [workLeft]
    omega

/-- Every step leaves less to do. -/
lemma move (h : Undoing later s) (hm : ServiceMove p s s') :
    (s'.hasReturned 0 = true ∨ Undoing later s')
      ∧ workLeft s' < workLeft s := by
  cases hm with
  | loop hw | call hw =>
    rw [h.worker] at hw
    cases hw
  | stop hd hs =>
    obtain ⟨h', hlt⟩ := h.setShutdown hd (Shutdown.work_stepTask hs) _
    exact ⟨.inr h', hlt⟩
  | wait hd hs =>
    obtain ⟨h', hlt⟩ := h.setShutdown hd (Shutdown.work_stepWait hs) s.site
    exact ⟨.inr h', hlt⟩
  | @caller i c c' hc hs =>
    rw [h.callers] at hc
    cases i with
    | succ i =>
      have hover := h.later c (List.mem_of_getElem? hc)
      cases c with
      | returned r => cases hs
      | startup | takedown | unwound => cases hover
    | zero =>
      obtain rfl : ServiceCall.startup (.undoing 0) = c := Option.some.inj hc
      obtain ⟨hready, hc'⟩ : (Startup.undoing 0).isReady s.site.now s.service
          = true ∧ Startup.bringUp s.site s.service .empty = c' := by
        have hs : (Startup.undoing 0).step p s.site s.service = some c' := hs
        rw [Startup.step] at hs
        split at hs
        · next hready => exact ⟨hready, Option.some.inj hs⟩
        · cases hs
      subst hc'
      rw [h.callers]
      refine ⟨.inl rfl, ?_⟩
      rw [workLeft, workLeft, h.hasReturned_eq]
      exact Nat.lt_succ_self _

/-- Whatever the tasks do, the group comes to an end, and the startup with
it. -/
lemma inevitable (h : Undoing later s) :
    (machine p).Inevitable (fun s => s.hasReturned 0 = true) s := by
  refine Machine.Inevitable.of_measure
    (I := fun s => s.hasReturned 0 = true ∨ Undoing later s) workLeft
    (fun s s' hI hno hs => ?_) (fun s hI hno hidle => ?_)
    (fun s hI hno d hd _ hidle => ?_)
    (fun s t s' hI hno hs => ((hI.resolve_left hno).move (step_cases hs)).2)
    (fun s d => rfl) (.inr h)
  · have h := hI.resolve_left hno
    cases hs with
    | run t ht => exact (h.move (step_cases ht)).1
    | wait => exact .inr ⟨h.callers, h.later, h.worker, h.shutdowns⟩
  · have h := hI.resolve_left hno
    obtain ⟨d, hd⟩ := h.shutdowns
    have hwait := stepWait_of_idle hidle (d := d) (by simp [hd])
    have hcaller := stepCaller_of_idle hidle
      (c := .startup (.undoing 0)) (by simp [h.callers])
    have hresult : d.result? = none := by
      cases hr : d.result? with
      | none => rfl
      | some r =>
        simp [stepCall, Startup.step, Startup.isReady,
          Service.shutdownResult?, hd, hr] at hcaller
    obtain ⟨w, hw, hlt⟩ := Shutdown.exists_wake hresult hwait
    refine ⟨w, ?_, hlt⟩
    show w ∈ wakes s
    simp [wakes, hd, hw]
  · have h := hI.resolve_left hno
    obtain ⟨g, hg⟩ := h.shutdowns
    have hmem : d ∈ g.wakes := by
      have hd : d ∈ wakes s := hd
      rw [wakes, h.worker, hg, h.callers, List.filterMap_cons_none rfl,
        filterMap_callWake?_eq_nil h.later] at hd
      simpa using hd
    have hgroup : g ∈ ((machine p).setNow s d).service.shutdowns :=
      List.mem_of_mem_head? (congrArg List.head? hg)
    rcases Shutdown.exists_step_of_wake
      (s := { s.site with now := d }) hmem rfl with hs | ⟨i, hs⟩
    · exact hs (stepWait_of_idle hidle hgroup)
    · exact hs (stepTask_of_idle hidle hgroup i)

end Undoing

/-! ### The first startup comes to an end -/

/-- The first caller has returned, or its startup has come to an abnormal
end. -/
def HasEnded (s : ServiceSystem σ) : Prop :=
  s.hasReturned 0 = true ∨ s.callers[0]? = some .unwound

/-- Whatever the tasks do, the first startup comes to an end. -/
def Ends (p : Platform σ) (s : ServiceSystem σ) : Prop :=
  (machine p).Inevitable HasEnded s

lemma Undoing.ends (h : Undoing later s) : Ends p s :=
  h.inevitable.imp (I := fun _ => True) trivial (fun _ _ _ _ => trivial)
    fun _ _ hr => .inl hr

section Ends

lemma ends_of_isOver {c : CallState σ} (h : c.call.isOver = true) :
    Ends p (ahead later c) := by
  refine .now (.inl ?_)
  rw [hasReturned, answer?, ahead]
  cases hc : c.call with
  | returned r => rfl
  | startup | takedown | unwound =>
    rw [hc] at h
    cases h

variable {first : σ} {site : Site σ} {sv : Service}
  (hlater : ∀ c ∈ later, c.isOver = true) (hw : sv.worker = none)
  (hd : sv.shutdowns = [])

include hlater hw hd

/-- A startup waits for its time and goes on. -/
lemma ends_of_resume {u : Startup} {due : Nat} (hu : u.due? = some due)
    (h : ∀ now, Ends p (ahead later (u.resume p { site with now } sv))) :
    Ends p (ahead later ⟨site, sv, .startup u⟩) := by
  by_cases hlt : site.now < due
  · exact .of_only (only_wait hw hd hlater hu hlt)
      (.of_only (only_resume hw hd hlater hu (Nat.le_refl due)) (h _))
  · exact .of_only (only_resume hw hd hlater hu (Nat.not_lt.1 hlt)) (h _)

lemma ends_undo (table : HandlerTable) :
    Ends p (ahead later (Startup.undo site sv table)) := by
  rw [Startup.undo]
  split
  · exact ends_of_isOver rfl
  · rw [Service.stopHandlers]
    cases Shutdown.begin? site.now (table.handlers.map (·.toComponent))
        sv.config.handlersShutdownTimeout true with
    | error e => exact ends_of_isOver rfl
    | ok d =>
      have hcall : sv.shutdowns.length = 0 := by rw [hd]; rfl
      refine Undoing.ends (?_ : Undoing later _)
      refine ⟨?_, hlater, hw, d, ?_⟩
      · show ServiceCall.startup (.undoing sv.shutdowns.length) :: later = _
        rw [hcall]
      · show sv.shutdowns ++ [d] = [d]
        rw [hd]
        rfl

lemma ends_publishing (table : HandlerTable) (due : Nat) :
    Ends p (ahead later ⟨site, sv, .startup (.publishing table due)⟩) := by
  refine ends_of_resume hlater hw hd rfl fun now => ?_
  simp only [Startup.resume]
  split
  · exact ends_of_isOver rfl
  · exact ends_undo hlater hw hd table

lemma ends_startNext (kept : HandlerTable) (rest : List Registration) :
    Ends p (ahead later (Startup.startNext p site sv kept rest)) := by
  induction rest generalizing site kept with
  | nil =>
    rw [Startup.startNext, Startup.publish]
    split
    · exact ends_publishing hlater hw hd kept _
    · exact ends_undo hlater hw hd kept
  | cons r rest ih =>
    refine ends_of_resume hlater hw hd rfl fun now => ?_
    simp only [Startup.resume]
    split
    · exact ih _
    · exact ih _
    · exact .now (.inr rfl)

lemma ends_starting (kept : HandlerTable) (r : Registration)
    (rest : List Registration) (due : Nat) : Ends p
      (ahead later ⟨site, sv, .startup (.starting kept r rest due)⟩) := by
  refine ends_of_resume hlater hw hd rfl fun now => ?_
  simp only [Startup.resume]
  split
  · exact ends_startNext hlater hw hd _ rest
  · exact ends_startNext hlater hw hd _ rest
  · exact .now (.inr rfl)

lemma ends_verify : Ends p (ahead later (Startup.verify p site sv)) := by
  rw [Startup.verify]
  cases HandlerTable.verify sv.candidates with
  | error e => exact ends_of_isOver rfl
  | ok table =>
    have hw' : Service.worker { sv with candidates := [] } = none := hw
    exact ends_startNext hlater hw' hd _ _

variable {pass : Pass} {installed : List InstalledSoftware}
  (hc : p.ComesTo first site.world)

include hc

/-- A startup settles one operation after the other. -/
lemma ends_settleNext
    (hnil : ∀ site : Site σ, p.ComesTo first site.world → Ends p
      (ahead later (Startup.settleNext p site sv pass installed [])))
    (rest : List Operation) : Ends p
      (ahead later (Startup.settleNext p site sv pass installed rest)) := by
  induction rest generalizing site with
  | nil => exact hnil site hc
  | cons o rest ih =>
    rw [Startup.settleNext]
    split
    · next o' _ =>
      refine ends_of_resume hlater hw hd rfl fun now => ?_
      simp only [Startup.resume]
      split
      · exact ends_of_isOver rfl
      · exact ih (hc.update o')
    · exact ends_of_isOver rfl

lemma ends_settling
    (hnil : ∀ site : Site σ, p.ComesTo first site.world → Ends p
      (ahead later (Startup.settleNext p site sv pass installed [])))
    (o : Operation) (rest : List Operation) (due : Nat) : Ends p (ahead
      later ⟨site, sv, .startup (.settling pass installed o rest due)⟩) := by
  refine ends_of_resume hlater hw hd rfl fun now => ?_
  simp only [Startup.resume]
  split
  · exact ends_of_isOver rfl
  · exact ends_settleNext hlater hw hd (hc.update o) hnil rest

lemma ends_inspecting (found : List Operation) (due : Nat) : Ends p
    (ahead later ⟨site, sv, .startup (.inspecting found due)⟩) := by
  refine ends_of_resume hlater hw hd rfl fun now => ?_
  simp only [Startup.resume]
  split
  · exact ends_of_isOver rfl
  · exact ends_settleNext hlater hw hd hc.installed
      (fun site _ => ends_verify hlater hw hd) found

/-- A startup asks for one page after the other. -/
lemma ends_querying
    (hsettle : ∀ (site : Site σ) found, p.ComesTo first site.world → Ends p
      (ahead later (Startup.settleAll p site sv found pass)))
    {world : σ} {page : Nat}
    (h : EndsPaging p pass sv.config.pageSize world page)
    (hworld : site.world = world) (found : List Operation) (due : Nat) :
    Ends p (ahead later
      ⟨site, sv, .startup (.querying pass page found due)⟩) := by
  induction h generalizing site found due with
  | @page world page _ _ ih =>
    have hc' := hc.query pass.kind .executing sv.config.pageSize page
    refine ends_of_resume hlater hw hd rfl fun now => ?_
    simp only [Startup.resume]
    split
    · exact ends_of_isOver rfl
    · next batch hr =>
      split
      · exact hsettle _ _ hc'
      · next hnext =>
        simp only [Bool.or_eq_true, Bool.not_eq_true', not_or,
          Bool.not_eq_false, List.isEmpty_iff] at hnext
        subst hworld
        exact ih batch hr hnext.1 hnext.2 hc' rfl _ _

lemma ends_settleAll_software (found : List Operation) :
    Ends p (ahead later (Startup.settleAll p site sv found .software)) := by
  rw [Startup.settleAll]
  split
  · exact ends_verify hlater hw hd
  · exact ends_inspecting hlater hw hd hc found _

/-- The restarts are settled, and the updates come next. -/
lemma ends_next (hf : FinitePages p sv.config.pageSize first) : Ends p
    (ahead later (Startup.settleNext p site sv .restarts installed [])) :=
  ends_querying hlater hw hd hc
    (fun _ found hc => ends_settleAll_software hlater hw hd hc found)
    (hf .software site.world hc) rfl [] _

end Ends

namespace Tries

variable {first : σ} {config : Config} {hasInventory : Bool}
  {cs : List Handler} {call : ServiceCall}

/-- However far the first startup is, it comes to an end, if each query is
answered with finitely many pages. -/
theorem ends (h : Tries p first config hasInventory cs s call)
    (hf : FinitePages p config.pageSize first) : Ends p s := by
  obtain ⟨later, heq, hlater⟩ := h.callers
  have hover : ∀ c ∈ later, c.isOver = true := fun c hc => by
    rw [hlater c hc]
    rfl
  have hnext : ∀ (site : Site σ) installed, p.ComesTo first site.world →
      Ends p (ahead later (Startup.settleNext p site
        (.opened config hasInventory cs) .restarts installed [])) :=
    fun site installed hc => ends_next hover rfl rfl hc hf
  have htried := h.tried
  obtain ⟨site, sv, callers⟩ := s
  subst heq
  cases htried with
  | refused | passFailed | duplicate | up => exact .now (.inl rfl)
  | unwound => exact .now (.inr rfl)
  | @atPasses u hv hes hc hu =>
    cases u with
    | querying pass page found due =>
      refine ends_querying hover rfl rfl hc (fun site' found hc' => ?_)
        (hu.2 hf) rfl found due
      cases pass with
      | restarts =>
        exact ends_settleNext hover rfl rfl hc'
          (fun site'' hc'' => hnext site'' [] hc'') found
      | software => exact ends_settleAll_software hover rfl rfl hc' found
    | inspecting found due => exact ends_inspecting hover rfl rfl hc found due
    | settling pass installed o rest due =>
      refine ends_settling hover rfl rfl hc (fun site' hc' => ?_) o rest due
      cases pass with
      | restarts => exact hnext site' installed hc'
      | software => exact ends_verify hover rfl rfl
    | starting | publishing | undoing => exact hu.elim
  | @bringing t sv u hv hp hd hu hb hbare hg =>
    cases u with
    | querying | inspecting | settling => cases hu
    | starting kept r rest due =>
      exact ends_starting hover hbare.worker hg kept r rest due
    | publishing table due =>
      exact ends_publishing hover hbare.worker hg table due
    | undoing i =>
      obtain ⟨rfl, d, hsd⟩ := hg
      exact Undoing.ends ⟨rfl, hover, hbare.worker, d, hsd⟩

/-- It returns, if the start of no handler comes to an abnormal end. -/
theorem returns (h : Tries p first config hasInventory cs s call)
    (hf : FinitePages p config.pageSize first) (hno : ¬ SomeUnwinds cs) :
    (machine p).Inevitable (fun s => s.hasReturned 0 = true) s := by
  refine (h.ends hf).imp
    (I := fun s => ∃ call, Tries p first config hasInventory cs s call)
    ⟨call, h⟩ (fun s s' ⟨_, h⟩ hs => h.step hs) fun s ⟨call, h⟩ hended => ?_
  refine hended.resolve_right fun hun => hno ?_
  obtain ⟨later, heq, -⟩ := h.callers
  rw [heq] at hun
  obtain rfl : call = .unwound := Option.some.inj hun
  have htried := h.tried
  generalize s.service = sv at htried
  cases htried with
  | unwound _ _ _ _ _ _ hpanic => exact hpanic

end Tries

end ServiceSystem

/-! ### A platform in memory -/

namespace Host

variable {τ : Type}

/-- The calls of the passes issue no operation. -/
lemma length_of_comesTo (H : Host τ) {first world : MemoryPlatform × τ}
    (h : H.platform.ComesTo first world) :
    world.1.operations.length = first.1.operations.length := by
  induction h with
  | refl => rfl
  | query _ kind status size page ih =>
    exact (congrArg (·.operations.length)
      (MemoryPlatform.query_keeps _ kind status size page)).trans ih
  | installed _ ih => exact ih
  | update _ o ih => exact (MemoryPlatform.length_update _ o).trans ih

/-- A platform in memory of fewer operations than there are page numbers
answers each query with finitely many pages, in any surroundings. -/
theorem finitePages (H : Host τ) (size : Nat) {first : MemoryPlatform × τ}
    (hlen : first.1.operations.length < 2 ^ 32) :
    FinitePages H.platform size first := by
  intro pass world hc
  rw [← H.length_of_comesTo hc] at hlen
  -- fewer operations follow after each page
  set l := world.1.matching pass.kind .executing with hl
  have hmany : l.length < 2 ^ 32 :=
    Nat.lt_of_le_of_lt (List.length_filter_le _ _) hlen
  suffices h : ∀ n page, page * Nat.max size 1 ≤ l.length →
      l.length - page * Nat.max size 1 ≤ n →
      EndsPaging H.platform pass size world page from
    h _ 0 (by simp) (Nat.le_refl _)
  have hnumber : ∀ page, page * Nat.max size 1 ≤ l.length →
      page < 2 ^ 32 := fun page hle =>
    Nat.lt_of_le_of_lt ((Nat.le_mul_of_pos_right page
      (Nat.le_max_right size 1)).trans hle) hmany
  intro n
  induction n with
  | zero =>
    intro page hpage hle
    refine .page (hnumber page hpage) fun batch hr hnext _ => ?_
    have hlt := world.1.lt_of_hasNext hr hnext
    rw [← hl] at hlt
    omega
  | succ n ih =>
    intro page hpage hle
    refine .page (hnumber page hpage) fun batch hr hnext _ => ?_
    have hlt := world.1.lt_of_hasNext hr hnext
    rw [← hl] at hlt
    have hsame : (H.platform.query world pass.kind .executing size page).2
        = world :=
      Prod.ext (world.1.query_keeps pass.kind .executing size page) rfl
    have hone : 1 ≤ Nat.max size 1 := Nat.le_max_right size 1
    have hmul : (page + 1) * Nat.max size 1
        = page * Nat.max size 1 + Nat.max size 1 := Nat.succ_mul ..
    rw [hsame]
    exact ih (page + 1) (by omega) (by omega)

end Host

/-! ### What decides -/

/-- Some setting is zero. -/
def Config.HasZero (c : Config) : Prop :=
  c.pollInterval.isZero = true ∨ c.pageSize = 0
    ∨ c.shutdownTimeout.isZero = true
    ∨ c.handlersShutdownTimeout.isZero = true

lemma Config.validate_eq_ok_iff_not_hasZero {c : Config} :
    c.validate = .ok () ↔ ¬ c.HasZero := by
  rw [validate_eq_ok_iff, HasZero]
  simp only [not_or, Bool.not_eq_true, ne_eq]

/-- Two candidates declare a common kind. -/
def ShareKind (cs : List Handler) : Prop :=
  ∃ a b, [a, b].Sublist cs ∧ ∃ kind, kind ∈ a.kinds ∧ kind ∈ b.kinds

lemma HandlerTable.exists_verify_eq_ok_iff_not_shareKind
    {cs : List Handler} : (∃ t, verify cs = .ok t) ↔ ¬ ShareKind cs := by
  rw [exists_verify_eq_ok_iff, List.pairwise_iff_forall_sublist, ShareKind]
  simp only [List.Disjoint]
  grind

namespace Tried

variable {σ : Type} {p : Platform σ} {first world : σ} {config : Config}
  {hasInventory : Bool} {cs : List Handler} {es : List Event} {sv : Service}

/-- What the first startup answers, by what decides it. -/
lemma verdict {r : Except ServiceError Unit}
    (h : Tried p first world config hasInventory cs es sv (.returned r)) :
    (∃ e, r = .error (.config e)) ∧ config.HasZero
      ∨ (∃ kind cause, r = .error (.reconciliation kind cause))
        ∧ ¬ config.HasZero ∧ ¬ PassesSucceed es
      ∨ (∃ e, r = .error (.duplicate e))
        ∧ ¬ config.HasZero ∧ PassesSucceed es ∧ ShareKind cs
      ∨ r = .ok () ∧ ¬ config.HasZero ∧ PassesSucceed es
        ∧ ¬ ShareKind cs := by
  have hvalid := Config.validate_eq_ok_iff_not_hasZero (c := config)
  have htable : (∃ t, HandlerTable.verify cs = .ok t) ↔ ¬ ShareKind cs :=
    HandlerTable.exists_verify_eq_ok_iff_not_shareKind
  cases h with
  | refused hv =>
    rw [hv] at hvalid
    exact .inl ⟨⟨_, rfl⟩, by simpa using hvalid⟩
  | passFailed hv hes hp => exact .inr (.inl ⟨⟨_, _, rfl⟩, hvalid.1 hv, hp⟩)
  | duplicate hv hes hp hd =>
    rw [hd] at htable
    exact .inr (.inr (.inl
      ⟨⟨_, rfl⟩, hvalid.1 hv, hp, by simpa using htable⟩))
  | up hv hp hd =>
    exact .inr (.inr (.inr ⟨rfl, hvalid.1 hv, hp, htable.1 ⟨_, hd⟩⟩))

/-- Each answer is given exactly when what decides it is so. -/
lemma verdict_iff {r : Except ServiceError Unit}
    (h : Tried p first world config hasInventory cs es sv (.returned r)) :
    ((∃ e, r = .error (.config e)) ↔ config.HasZero)
      ∧ ((∃ kind cause, r = .error (.reconciliation kind cause))
        ↔ ¬ config.HasZero ∧ ¬ PassesSucceed es)
      ∧ ((∃ e, r = .error (.duplicate e))
        ↔ ¬ config.HasZero ∧ PassesSucceed es ∧ ShareKind cs)
      ∧ (r = .ok ()
        ↔ ¬ config.HasZero ∧ PassesSucceed es ∧ ¬ ShareKind cs) := by
  rcases h.verdict with ⟨⟨e, rfl⟩, hz⟩ | ⟨⟨kind, cause, rfl⟩, hz, hp⟩
    | ⟨⟨e, rfl⟩, hz, hp, hs⟩ | ⟨rfl, hz, hp, hs⟩ <;> simp [*]

/-- A startup that has failed leaves nothing behind. -/
lemma nothing {e : ServiceError}
    (h : Tried p first world config hasInventory cs es sv (.returned (.error e))) :
    sv.worker = none ∧ sv.activeKinds = [] ∧ sv.shutdowns = []
      ∧ OnlyPasses es := by
  cases h with
  | refused hv hes | passFailed hv hes | duplicate hv hes =>
    exact ⟨rfl, rfl, rfl, hes⟩

/-- A startup that came to an abnormal end had made its passes and was
starting handlers. -/
lemma unwinds (h : Tried p first world config hasInventory cs es sv .unwound) :
    (¬ config.HasZero ∧ PassesSucceed es ∧ ¬ ShareKind cs ∧ SomeUnwinds cs)
      ∧ sv.worker = none ∧ sv.activeKinds = [] ∧ sv.shutdowns = [] := by
  cases h with
  | unwound hv hp hd _ hbare hg hpanic =>
    refine ⟨⟨Config.validate_eq_ok_iff_not_hasZero.1 hv, hp,
      HandlerTable.exists_verify_eq_ok_iff_not_shareKind.1 ⟨_, hd⟩, hpanic⟩,
      hbare.worker, ?_, hg⟩
    rw [Service.activeKinds, hbare.active]
    rfl

end Tried

namespace ServiceSystem

variable {σ : Type} {p : Platform σ} {s : ServiceSystem σ} {now : Nat}
  {world : σ} {config : Config} {hasInventory : Bool} {cs : List Handler}

/-- What calls that start a service come to, however many there are, on a
platform that was in some state before. -/
structure StartsOnce (p : Platform σ) (world : σ) (config : Config)
    (cs : List Handler) (s : ServiceSystem σ) : Prop where
  /-- All calls but the first one are refused. -/
  refused : ∀ i, 0 < i → i < s.callers.length →
    s.answer? i = some (.error .alreadyStarted)
  /-- One more call does nothing but return. -/
  idle : s.start p = {
    site := s.site.note (.returned s.callers.length)
    service := s.service
    callers := s.callers ++ [.returned (.error .alreadyStarted)] }
  /-- A startup that has failed has taken up no worker, serves no kinds,
  and has neither told a handler anything nor published anything. -/
  nothing : ∀ e, s.answer? 0 = some (.error e) →
    s.service.worker = none ∧ s.service.activeKinds = []
      ∧ s.service.shutdowns = [] ∧ OnlyPasses s.site.journal.events
  /-- The settings are refused. -/
  isConfig : ∀ r, s.answer? 0 = some r →
    ((∃ e, r = .error (.config e)) ↔ config.HasZero)
  /-- A pass fails. -/
  isReconciliation : ∀ r, s.answer? 0 = some r →
    ((∃ kind cause, r = .error (.reconciliation kind cause))
      ↔ ¬ config.HasZero ∧ ¬ PassesSucceed s.site.journal.events)
  /-- The candidates are refused. -/
  isDuplicate : ∀ r, s.answer? 0 = some r →
    ((∃ e, r = .error (.duplicate e)) ↔ ¬ config.HasZero
      ∧ PassesSucceed s.site.journal.events ∧ ShareKind cs)
  /-- Nothing else can fail. -/
  isOk : ∀ r, s.answer? 0 = some r → (r = .ok () ↔ ¬ config.HasZero
    ∧ PassesSucceed s.site.journal.events ∧ ¬ ShareKind cs)
  started : s.answer? 0 = some (.ok ()) →
    s.service.workerState? = some .started
  /-- The start of a handler takes the first call with it only after
  everything else that can fail, and then there is no worker and no kind
  is served. -/
  unwinds : s.callers[0]? = some .unwound →
    (¬ config.HasZero ∧ PassesSucceed s.site.journal.events
      ∧ ¬ ShareKind cs ∧ SomeUnwinds cs)
    ∧ s.service.worker = none ∧ s.service.activeKinds = []
      ∧ s.service.shutdowns = []
  /-- The first call comes to an end, whatever the tasks do. -/
  ends : FinitePages p config.pageSize world →
    (machine p).Inevitable HasEnded s
  /-- It returns, unless the start of a handler comes to an abnormal
  end. -/
  returns : FinitePages p config.pageSize world → ¬ SomeUnwinds cs →
    (machine p).Inevitable (fun s => s.hasReturned 0 = true) s

/-- Whatever a service is started with, and however often, its first
startup brings up everything or nothing, and the others do nothing. -/
theorem startsOnce_of_attempts
    (h : Attempts p now world config hasInventory cs s) :
    StartsOnce p world config cs s := by
  obtain ⟨call, ht⟩ := h.tried
  obtain ⟨later, heq, hlater⟩ := ht.callers
  have htried : ∀ r, s.answer? 0 = some r →
      Tried p world s.site.world config hasInventory cs
        s.site.journal.events s.service (.returned r) := by
    intro r hr
    rw [answer?_eq_some, heq] at hr
    exact Option.some.inj hr ▸ ht.tried
  refine {
    refused := fun i hi hlt => ?_
    idle := ht.start_eq
    nothing := fun e he => (htried _ he).nothing
    isConfig := fun r hr => (htried r hr).verdict_iff.1
    isReconciliation := fun r hr => (htried r hr).verdict_iff.2.1
    isDuplicate := fun r hr => (htried r hr).verdict_iff.2.2.1
    isOk := fun r hr => (htried r hr).verdict_iff.2.2.2
    started := fun hr => ?_
    unwinds := fun hun => ?_
    ends := ht.ends
    returns := ht.returns }
  · obtain ⟨i, rfl⟩ := Nat.exists_eq_add_of_lt hi
    rw [heq, List.length_cons] at hlt
    have hget : i < later.length := by omega
    rw [answer?_eq_some, heq, Nat.zero_add, List.getElem?_cons_succ,
      List.getElem?_eq_getElem hget, hlater _ (List.getElem_mem hget)]
  · have hup := htried _ hr
    generalize s.service = sv at hup ⊢
    cases hup with
    | up _ _ _ _ hw hs => rw [Service.workerState?, hw, Option.map_some, hs]
  · rw [heq] at hun
    obtain rfl : call = .unwound := Option.some.inj hun
    exact ht.tried.unwinds

/-- A platform with a restart that is executing. -/
def leftRestarting : MemoryPlatform where
  operations :=
    let restart := (Operation.new "1").withFragment Kind.restart (.object [])
    [{ restart with status := .executing }]

/-- A service that is to settle a restart and whose candidates declare a
common kind, when it was just started. -/
def contested : ServiceSystem (MemoryPlatform × Unit) :=
  start Host.prompt.platform {
    site := { world := (leftRestarting, ()) }
    service := { config := {}, candidates := [
      { uid := 0, name := "restarts", kinds := [Kind.restart] },
      { uid := 1, name := "commands",
        kinds := ["c8y_Command", Kind.restart] }] } }

/-- A second start is made while the first one is at its passes. -/
theorem startsOnce_contested :
    let p := Host.prompt.platform
    let s := (machine p).settle 60 (contested.start p)
    contested.hasReturned 0 = false
      ∧ StartsOnce p (leftRestarting, ()) {} contested.service.candidates s
      ∧ s.hasReturned 0 = true
      ∧ s.answer? 0 = some
        (.error (.duplicate ⟨Kind.restart, "restarts", "commands"⟩))
      ∧ s.answer? 1 = some (.error .alreadyStarted)
      ∧ s.site.world.1.operations.map (·.status) = [.successful]
      ∧ (machine p).Inevitable (fun s => s.hasReturned 0 = true)
        (contested.start p) := by
  intro p s
  have h : Attempts p 0 (leftRestarting, ()) {} true
      contested.service.candidates (contested.start p) := .again .first
  have hpages : FinitePages p ({} : Config).pageSize (leftRestarting, ()) :=
    Host.prompt.finitePages _ (by decide)
  have hstarts : ¬ SomeUnwinds contested.service.candidates := by
    rintro ⟨h, hmem, -, hpanic⟩
    revert h
    decide
  exact ⟨by decide +kernel,
    startsOnce_of_attempts (h.of_runs (Machine.settle_runs 60 _)),
    by decide +kernel, by decide +kernel, by decide +kernel,
    by decide +kernel,
    (startsOnce_of_attempts h).returns hpages hstarts⟩

end ServiceSystem

end RemoteOps
