/-
A service that is started again and again.

Only the first startup does anything.  Until the candidates are verified
it makes its passes and touches neither a handler nor the worker; after
that it cannot fail any more.

* `PassesSucceed`: what the calls of the passes come to;
* `Surveyed`: what they have shown until now;
* `FinitePages`: the platforms that answer each query with finitely many
  pages;
* `ServiceSystem.Attempts`: the runs in which a service is started any
  number of times;
* `Tried`, `ServiceSystem.Attempts.tried`: how far the first startup is,
  by what has happened until now.
-/
import RemoteOps.Proofs.HandlerTable
import RemoteOps.Proofs.Service.Moves
import RemoteOps.Proofs.Shutdown
import RemoteOps.Proofs.Worker.SingleLoop
import RemoteOps.Proofs.Worker.Steps

namespace RemoteOps

/-! ### What the passes come to -/

namespace Event

/-- A call of a pass that has failed. -/
def failsPass : Event → Bool
  | .query _ _ _ _ (.error _) | .update _ (.error _)
  | .installed (.error _) => true
  | _ => false

/-- The operations that an event returns to a pass. -/
def found (pass : Pass) : Event → List Operation
  | .query kind _ _ _ (.ok batch) =>
    if kind = pass.kind then batch.operations else []
  | _ => []

/-- An event from which the passes learn something. -/
def tellsPasses : Event → Bool
  | .query .. | .installed _ | .update _ (.error _) => true
  | _ => false

variable {e : Event}

lemma failsPass_of_silent (h : e.tellsPasses = false) :
    e.failsPass = false := by
  cases e with
  | query | installed => cases h
  | update o r =>
    cases r with
    | ok => rfl
    | error => cases h
  | _ => rfl

lemma found_of_silent (h : e.tellsPasses = false) (pass : Pass) :
    e.found pass = [] := by
  cases e with
  | query => cases h
  | _ => rfl

lemma ne_installed_of_silent (h : e.tellsPasses = false)
    (l : List InstalledSoftware) : Event.installed (.ok l) ≠ e := by
  rintro rfl
  cases h

lemma silent_of_isOfWorker (h : e.isOfWorker = true) :
    e.tellsPasses = false := by
  cases e <;> first | rfl | cases h

end Event

namespace Pass

/-- The operations that were returned to a pass. -/
def found (pass : Pass) (es : List Event) : List Operation :=
  es.flatMap (Event.found pass)

lemma found_append (pass : Pass) (es es' : List Event) :
    pass.found (es ++ es') = pass.found es ++ pass.found es' :=
  List.flatMap_append

lemma found_append_of_silent {es' : List Event}
    (h : ∀ e ∈ es', e.tellsPasses = false) (pass : Pass) (es : List Event) :
    pass.found (es ++ es') = pass.found es := by
  have hnil : pass.found es' = [] := List.flatMap_eq_nil_iff.2 fun e he =>
    Event.found_of_silent (h e he) pass
  rw [pass.found_append, hnil, List.append_nil]

/-- Whether an operation is in a status from which a pass can settle
it. -/
def CanSettle (pass : Pass) (installed : List InstalledSoftware)
    (o : Operation) : Prop :=
  o.status.canBecome (statusOf (pass.fault? installed o)) = true

lemma exists_settle?_eq_ok_iff {pass : Pass}
    {installed : List InstalledSoftware} {o : Operation} :
    (∃ o', pass.settle? installed o = .ok o')
      ↔ pass.CanSettle installed o := by
  rw [CanSettle, settle?]
  split
  · next ht =>
    have hb := (Operation.transitionTo_eq_ok_iff.1 ht).1
    exact ⟨fun _ => hb, fun _ => ⟨_, rfl⟩⟩
  · next ht => simp [(Operation.transitionTo_eq_error_iff.1 ht).1]

end Pass

/-- No call of the passes fails, and each operation that they find is in
a status from which it can be settled. -/
structure PassesSucceed (es : List Event) : Prop where
  answered : ∀ e ∈ es, e.failsPass = false
  restarts : ∀ o ∈ Pass.restarts.found es, Pass.restarts.CanSettle [] o
  software : ∀ l, .installed (.ok l) ∈ es →
    ∀ o ∈ Pass.software.found es, Pass.software.CanSettle l o

/-- Events from which the passes learn nothing do not matter. -/
lemma passesSucceed_append {es es' : List Event}
    (h : ∀ e ∈ es', e.tellsPasses = false) :
    PassesSucceed (es ++ es') ↔ PassesSucceed es := by
  constructor
  · rintro ⟨ha, hr, hs⟩
    rw [Pass.found_append_of_silent h] at hr hs
    exact ⟨fun e he => ha e (List.mem_append_left _ he), hr,
      fun l hl => hs l (List.mem_append_left _ hl)⟩
  · rintro ⟨ha, hr, hs⟩
    refine ⟨fun e he => ?_, by rwa [Pass.found_append_of_silent h],
      fun l hl => ?_⟩
    · rcases List.mem_append.1 he with he | he
      · exact ha e he
      · exact Event.failsPass_of_silent (h e he)
    · rw [Pass.found_append_of_silent h]
      rcases List.mem_append.1 hl with hl | hl
      · exact hs l hl
      · exact absurd rfl (Event.ne_installed_of_silent (h _ hl) l)

/-- What the calls of the passes have shown until now: none has failed,
and of the operations that were found for the present pass some can be
settled and others were not yet looked at. -/
structure Surveyed (pass : Pass) (seen : Option (List InstalledSoftware))
    (done rest : List Operation) (es : List Event) : Prop where
  answered : ∀ e ∈ es, e.failsPass = false
  found : pass.found es = done ++ rest
  settled : ∀ o ∈ done, pass.CanSettle (seen.getD []) o
  restarts : pass = .software →
    ∀ o ∈ Pass.restarts.found es, Pass.restarts.CanSettle [] o
  software : pass = .restarts → Pass.software.found es = [] ∧ seen = none
  seen : ∀ l, .installed (.ok l) ∈ es ↔ seen = some l

namespace Surveyed

variable {pass : Pass} {seen : Option (List InstalledSoftware)}
  {done rest : List Operation} {es es' : List Event} {o : Operation}

lemma nil : Surveyed .restarts none [] [] [] where
  answered _ h := by cases h
  found := rfl
  settled _ h := by cases h
  restarts h := by cases h
  software _ := ⟨rfl, rfl⟩
  seen l := by simp

/-- Events from which the passes learn nothing do not matter. -/
lemma append (h : Surveyed pass seen done rest es)
    (hes : ∀ e ∈ es', e.tellsPasses = false) :
    Surveyed pass seen done rest (es ++ es') := by
  have hfound := fun pass : Pass => pass.found_append_of_silent hes es
  refine ⟨fun e he => ?_, by rw [hfound, h.found], h.settled,
    by rw [hfound]; exact h.restarts, by rw [hfound]; exact h.software,
    fun l => ?_⟩
  · rcases List.mem_append.1 he with he | he
    · exact h.answered e he
    · exact Event.failsPass_of_silent (hes e he)
  · rw [← h.seen l, List.mem_append, or_iff_left]
    exact fun hl => Event.ne_installed_of_silent (hes _ hl) l rfl

/-- A page was found. -/
lemma query (h : Surveyed pass none done rest es) (size page : Nat)
    (batch : OperationPage) :
    Surveyed pass none done (rest ++ batch.operations)
      (es ++ [.query pass.kind .executing size page (.ok batch)]) := by
  have hown : pass.found [.query pass.kind .executing size page (.ok batch)]
      = batch.operations := by
    simp [Pass.found, Event.found]
  have hother : ∀ pass' : Pass, pass ≠ pass' → pass'.found
      [.query pass.kind .executing size page (.ok batch)] = [] := by
    intro pass' hne
    have hkind : pass.kind ≠ pass'.kind := by
      cases pass <;> cases pass' <;>
        first | exact absurd rfl hne | (simp only [Pass.kind]; decide)
    simp [Pass.found, Event.found, hkind]
  refine ⟨fun e he => ?_, ?_, h.settled, fun hp => ?_, fun hp => ?_,
    fun l => ?_⟩
  · rcases List.mem_append.1 he with he | he
    · exact h.answered e he
    · rw [List.mem_singleton.1 he]
      rfl
  · rw [pass.found_append, h.found, hown, List.append_assoc]
  · rw [Pass.found_append, hother .restarts (by rw [hp]; decide),
      List.append_nil]
    exact h.restarts hp
  · rw [Pass.found_append, hother .software (by rw [hp]; decide),
      List.append_nil]
    exact h.software hp
  · rw [← h.seen l, List.mem_append, or_iff_left]
    exact fun hl => Event.noConfusion (List.mem_singleton.1 hl)

/-- The installed software was shown. -/
lemma inspect (h : Surveyed .software none [] rest es)
    (l : List InstalledSoftware) :
    Surveyed .software (some l) [] rest (es ++ [.installed (.ok l)]) := by
  have hfound : ∀ pass : Pass, pass.found (es ++ [.installed (.ok l)])
      = pass.found es := fun pass => by
    rw [pass.found_append]
    exact List.append_nil _
  refine ⟨fun e he => ?_, (by rw [hfound, h.found]),
    fun o ho => (by cases ho), (by rw [hfound]; exact h.restarts),
    fun hp => (by cases hp), fun l' => ?_⟩
  · rcases List.mem_append.1 he with he | he
    · exact h.answered e he
    · rw [List.mem_singleton.1 he]
      rfl
  · have hnone := h.seen l'
    simp only [reduceCtorEq, iff_false] at hnone
    simp [hnone, eq_comm]

/-- An operation can be settled. -/
lemma settle (h : Surveyed pass seen done (o :: rest) es)
    (ho : pass.CanSettle (seen.getD []) o) :
    Surveyed pass seen (done ++ [o]) rest es := by
  refine { h with
    found := by rw [h.found, List.append_assoc]; rfl
    settled := fun o' ho' => ?_ }
  rcases List.mem_append.1 ho' with ho' | ho'
  · exact h.settled o' ho'
  · rw [List.mem_singleton.1 ho']
    exact ho

/-- The restarts are settled, and the updates come next. -/
lemma next (h : Surveyed .restarts seen done [] es) :
    Surveyed .software none [] [] es := by
  obtain ⟨hnil, rfl⟩ := h.software rfl
  refine ⟨h.answered, hnil, fun o ho => (by cases ho), fun _ o ho => ?_,
    fun hp => (by cases hp), h.seen⟩
  rw [h.found, List.append_nil] at ho
  exact h.settled o ho

/-- The updates are settled, or there are none. -/
lemma passesSucceed (h : Surveyed .software seen done [] es) :
    PassesSucceed es := by
  refine ⟨h.answered, h.restarts rfl, fun l hl o ho => ?_⟩
  have hsettled := h.settled o
  rw [(h.seen l).1 hl] at hsettled
  rw [h.found, List.append_nil] at ho
  exact hsettled ho

/-- An operation cannot be settled. -/
lemma not_passesSucceed (h : Surveyed pass seen done (o :: rest) es)
    (hseen : pass = .software → seen.isSome = true)
    (ho : ¬ pass.CanSettle (seen.getD []) o) : ¬ PassesSucceed es := by
  intro hp
  have hmem : o ∈ pass.found es := by simp [h.found]
  cases pass with
  | restarts =>
    obtain ⟨-, rfl⟩ := h.software rfl
    exact ho (hp.restarts o hmem)
  | software =>
    obtain ⟨l, rfl⟩ := Option.isSome_iff_exists.1 (hseen rfl)
    exact ho (hp.software l ((h.seen l).2 rfl) o hmem)

end Surveyed

/-- A call of the passes has failed. -/
lemma not_passesSucceed_of_mem {es : List Event} {e : Event} (he : e ∈ es)
    (hf : e.failsPass = true) : ¬ PassesSucceed es := by
  intro h
  rw [h.answered e he] at hf
  cases hf

/-! ### Finitely many pages -/

/-- The states that the calls of the passes make of a state of a
platform. -/
inductive Platform.ComesTo {σ : Type} (p : Platform σ) (first : σ) :
    σ → Prop where
  | refl : ComesTo p first first
  | query {world : σ} (h : ComesTo p first world) (kind : String)
    (status : Status) (size page : Nat) :
    ComesTo p first (p.query world kind status size page).2
  | installed {world : σ} (h : ComesTo p first world) :
    ComesTo p first (p.installed world).2
  | update {world : σ} (h : ComesTo p first world) (o : Operation) :
    ComesTo p first (p.update world o).2

/-- Asking for the operations of a pass, page after page, comes to an
end: some page fails, is empty or is the last one, before the numbers of
the pages run out, which have 32 bits. -/
inductive EndsPaging {σ : Type} (p : Platform σ) (pass : Pass)
    (size : Nat) : σ → Nat → Prop where
  | page {world : σ} {page : Nat} (hnumber : page < 2 ^ 32)
    (h : ∀ batch,
      (p.query world pass.kind .executing size page).1 = .ok batch →
      batch.hasNext = true → batch.operations ≠ [] →
      EndsPaging p pass size
        (p.query world pass.kind .executing size page).2 (page + 1)) :
    EndsPaging p pass size world page

/-- Whatever the passes make of a state of a platform, it answers each
query with finitely many pages. -/
def FinitePages {σ : Type} (p : Platform σ) (size : Nat) (first : σ) :
    Prop :=
  ∀ pass world, p.ComesTo first world → EndsPaging p pass size world 0

/-! ### How far a startup is -/

/-- A startup that makes its passes knows what they have shown, and asks
for finitely many pages. -/
def Startup.Surveys {σ : Type} (p : Platform σ) (size : Nat)
    (first world : σ) (es : List Event) : Startup → Prop
  | .querying pass page found _ => Surveyed pass none [] found es
    ∧ (FinitePages p size first → EndsPaging p pass size world page)
  | .inspecting found _ => Surveyed .software none [] found es
  | .settling pass installed _ rest _ => ∃ seen done,
    Surveyed pass seen done rest es ∧ installed = seen.getD []
      ∧ (pass = .software → seen.isSome = true)
  | .starting .. | .publishing .. | .undoing _ => False

/-- A startup that waits for handlers to stop waits for the only group
that there is. -/
def Startup.HasGroup (sv : Service) : Startup → Prop
  | .undoing i => i = 0 ∧ ∃ d, sv.shutdowns = [d]
  | .querying .. | .inspecting .. | .settling .. | .starting ..
  | .publishing .. => sv.shutdowns = []

/-- Nothing has happened but the passes and the return of callers: no
handler was told to start or to stop, and nothing was published. -/
def OnlyPasses (es : List Event) : Prop :=
  ∀ e ∈ es, e.isOfPasses = true ∨ ∃ i, e = .returned i

lemma OnlyPasses.append {es es' : List Event} (h : OnlyPasses es)
    (h' : OnlyPasses es') : OnlyPasses (es ++ es') :=
  List.forall_mem_append.2 ⟨h, h'⟩

/-- A service that has taken up neither a worker nor handlers. -/
structure Service.IsBare (sv : Service) : Prop where
  worker : sv.worker = none
  active : sv.active = .empty

/-- A service that was started with a configuration and some candidates
and has done nothing yet. -/
def Service.opened (config : Config) (hasInventory : Bool)
    (cs : List Handler) : Service :=
  { config, hasInventory, candidates := cs, begun := true }

/-- The handlers that a startup is still to start. -/
def Startup.toStart : Startup → List Handler
  | .starting _ r rest _ => r.handler :: rest.map (·.handler)
  | .querying .. | .inspecting .. | .settling .. | .publishing ..
  | .undoing _ => []

/-- The start of a handler that declares kinds comes to an abnormal
end. -/
def SomeUnwinds (cs : List Handler) : Prop :=
  ∃ h ∈ cs, h.kinds ≠ [] ∧ h.startPhase.ending = .panic

/-- How far the first startup of a service is, by what has happened until
now. -/
inductive Tried {σ : Type} (p : Platform σ) (first world : σ)
    (config : Config) (hasInventory : Bool) (cs : List Handler)
    (es : List Event) : Service → ServiceCall → Prop where
  | refused {e : ConfigError} (hv : config.validate = .error e)
    (hes : OnlyPasses es) :
    Tried p first world config hasInventory cs es
      (.opened config hasInventory cs) (.returned (.error (.config e)))
  | atPasses {u : Startup} (hv : config.validate = .ok ())
    (hes : OnlyPasses es) (hc : p.ComesTo first world)
    (hu : u.Surveys p config.pageSize first world es) :
    Tried p first world config hasInventory cs es
      (.opened config hasInventory cs) (.startup u)
  | passFailed {kind cause : String} (hv : config.validate = .ok ())
    (hes : OnlyPasses es) (hp : ¬ PassesSucceed es) :
    Tried p first world config hasInventory cs es
      (.opened config hasInventory cs)
      (.returned (.error (.reconciliation kind cause)))
  | duplicate {e : DuplicateKind} (hv : config.validate = .ok ())
    (hes : OnlyPasses es) (hp : PassesSucceed es)
    (hd : HandlerTable.verify cs = .error e) :
    Tried p first world config hasInventory cs es
      (.opened config hasInventory []) (.returned (.error (.duplicate e)))
  | bringing {t : HandlerTable} {sv : Service} {u : Startup}
    (hv : config.validate = .ok ()) (hp : PassesSucceed es)
    (hd : HandlerTable.verify cs = .ok t) (hu : u.isInPasses = false)
    (hb : sv.begun = true) (hbare : sv.IsBare) (hg : u.HasGroup sv)
    (hto : ∀ h ∈ u.toStart, h ∈ cs ∧ h.kinds ≠ []) :
    Tried p first world config hasInventory cs es sv (.startup u)
  | unwound {t : HandlerTable} {sv : Service}
    (hv : config.validate = .ok ()) (hp : PassesSucceed es)
    (hd : HandlerTable.verify cs = .ok t) (hb : sv.begun = true)
    (hbare : sv.IsBare) (hg : sv.shutdowns = [])
    (hpanic : SomeUnwinds cs) :
    Tried p first world config hasInventory cs es sv .unwound
  | up {t : HandlerTable} {sv : Service} {w : Worker}
    (hv : config.validate = .ok ()) (hp : PassesSucceed es)
    (hd : HandlerTable.verify cs = .ok t) (hb : sv.begun = true)
    (hw : sv.worker = some w) (hs : w.state = .started) :
    Tried p first world config hasInventory cs es sv (.returned (.ok ()))

/-! ### After the passes -/

/-- What a startup comes to that has made its passes, with some handlers
still to start: it goes on, one of them takes it to an abnormal end, or it
has taken up a worker. -/
inductive Brings (rest : List Handler) (sv : Service) :
    Service → ServiceCall → Prop where
  | goesOn {sv' : Service} {u : Startup} (hu : u.isInPasses = false)
    (hb : sv'.begun = sv.begun) (hbare : sv.IsBare → sv'.IsBare)
    (hg : u.HasGroup sv') (hto : ∀ h ∈ u.toStart, h ∈ rest) :
    Brings rest sv sv' (.startup u)
  | unwound {h : Handler} (hmem : h ∈ rest)
    (hpanic : h.startPhase.ending = .panic) (hg : sv.shutdowns = []) :
    Brings rest sv sv .unwound
  | up {sv' : Service} {table : HandlerTable} {interval : Span}
    (hb : sv'.begun = sv.begun)
    (hw : sv'.worker = some (.launched table interval)) :
    Brings rest sv sv' (.returned (.ok ()))

section Brings

variable {now : Nat} {sv sv' : Service} {kept : HandlerTable}
  {rest : List Registration} {es : List Event} {call : ServiceCall}
  {u : Startup}

lemma Undoes.brings (h : Undoes now sv kept sv' call)
    (hs : sv.shutdowns = []) (toStart : List Handler) :
    Brings toStart sv sv' call := by
  cases h with
  | nothing | refused => exact .up rfl rfl
  | group =>
    exact .goesOn rfl rfl (fun h => ⟨h.worker, h.active⟩)
      (by simp [Startup.HasGroup, hs]) (List.forall_mem_nil _)

lemma StartsNext.brings (h : StartsNext now sv kept rest es sv' call)
    (hs : sv.shutdowns = []) {toStart : List Handler}
    (hsub : ∀ r ∈ rest, r.handler ∈ toStart) :
    Brings toStart sv sv' call := by
  cases h with
  | start =>
    refine .goesOn rfl rfl id hs fun h hmem => ?_
    rw [Startup.toStart, ← List.map_cons] at hmem
    obtain ⟨r, hr, rfl⟩ := List.mem_map.1 hmem
    exact hsub r hr
  | publish => exact .goesOn rfl rfl id hs (List.forall_mem_nil _)
  | undo h => exact h.brings hs _

lemma StartupMove.brings (h : StartupMove now sv u es sv' call)
    (hu : u.isInPasses = false) (hg : u.HasGroup sv) :
    Brings u.toStart sv sv' call := by
  cases h with
  | pass hp | passFailed hp | duplicate hp | verified hp =>
    rw [hu] at hp
    cases hp
  | started _ h | dropped _ h =>
    exact h.brings hg fun r hr => List.mem_cons_of_mem _
      (List.mem_map_of_mem hr)
  | unwound hr => exact .unwound (List.mem_cons_self ..) hr hg
  | published | undone => exact .up rfl rfl
  | unpublished h => exact h.brings hg _

lemma StartsNext.silent (h : StartsNext now sv kept rest es sv' call) :
    ∀ e ∈ es, e.tellsPasses = false := by
  cases h with
  | start => exact List.forall_mem_singleton.2 rfl
  | publish | undo => exact List.forall_mem_nil _

lemma StartupMove.silent (h : StartupMove now sv u es sv' call)
    (hu : u.isInPasses = false) : ∀ e ∈ es, e.tellsPasses = false := by
  cases h with
  | pass hp | passFailed hp | duplicate hp | verified hp =>
    rw [hu] at hp
    cases hp
  | started _ h => exact List.forall_mem_cons.2 ⟨rfl, h.silent⟩
  | dropped _ h => exact h.silent
  | published | unpublished => exact List.forall_mem_singleton.2 rfl
  | unwound | undone => exact List.forall_mem_nil _

/-- The candidates are verified, and what follows cannot fail. -/
lemma Tried.of_brings {σ : Type} {p : Platform σ} {first world : σ}
    {config : Config} {hasInventory : Bool} {cs toStart : List Handler}
    {t : HandlerTable} (hv : config.validate = .ok ())
    (hp : PassesSucceed es) (hd : HandlerTable.verify cs = .ok t)
    (hb : sv.begun = true) (hbare : sv.IsBare)
    (hto : ∀ h ∈ toStart, h ∈ cs ∧ h.kinds ≠ [])
    (h : Brings toStart sv sv' call) :
    Tried p first world config hasInventory cs es sv' call := by
  cases h with
  | goesOn hu hb' hbare' hg hto' =>
    exact .bringing hv hp hd hu (hb'.trans hb) (hbare' hbare) hg
      fun h hmem => hto h (hto' h hmem)
  | @unwound h hmem hpanic hg =>
    obtain ⟨hcs, hkinds⟩ := hto h hmem
    exact .unwound hv hp hd hb hbare hg ⟨h, hcs, hkinds, hpanic⟩
  | up hb' hw' => exact .up hv hp hd (hb'.trans hb) hw' rfl

end Brings

/-! ### The passes -/

namespace Startup

variable {σ : Type} {p : Platform σ} {first : σ} {site : Site σ}
  {config : Config} {hasInventory : Bool} {cs : List Handler} {pass : Pass}
  {seen : Option (List InstalledSoftware)} {done rest : List Operation}

/-- A call of a startup is as far as the journal of its site says. -/
def IsTried (p : Platform σ) (first : σ) (config : Config)
    (hasInventory : Bool) (cs : List Handler) (c : CallState σ) : Prop :=
  Tried p first c.site.world config hasInventory cs c.site.journal.events
    c.service c.call

/-- Who is registered is a candidate that declares kinds. -/
lemma mem_candidates {t : HandlerTable}
    (hd : HandlerTable.verify cs = .ok t) {r : Registration}
    (hr : r ∈ t.registrations) : r.handler ∈ cs ∧ r.handler.kinds ≠ [] := by
  rw [(HandlerTable.verify_eq_ok hd).1] at hr
  obtain ⟨h, hh, rfl⟩ := List.mem_map.1 hr
  obtain ⟨hcs, hkinds⟩ := List.mem_filter.1 hh
  have hne : h.kinds ≠ [] := by simpa using hkinds
  exact ⟨hcs, hne⟩

variable (hv : config.validate = .ok ())
  (hes : OnlyPasses site.journal.events)
  (hc : p.ComesTo first site.world)

include hv

lemma isTried_verify (hes : OnlyPasses site.journal.events)
    (hp : PassesSucceed site.journal.events) :
    IsTried p first config hasInventory cs
      (verify p site (.opened config hasInventory cs)) := by
  rw [verify, show (Service.opened config hasInventory cs).candidates = cs
    from rfl]
  cases hd : HandlerTable.verify cs with
  | error e => exact .duplicate hv hes hp hd
  | ok table =>
    obtain ⟨es, he, hn⟩ := startNext_cases (p := p) site
      (.opened config hasInventory []) .empty table.registrations
    have hpass := (passesSucceed_append hn.silent).2 hp
    rw [← he.events] at hpass
    refine .of_brings hv hpass hd rfl ⟨rfl, rfl⟩ (fun h hmem => ?_)
      (hn.brings rfl fun r => List.mem_map_of_mem)
    obtain ⟨r, hr, rfl⟩ := List.mem_map.1 hmem
    exact mem_candidates hd hr

include hes hc

lemma isTried_settleNext (h : Surveyed pass seen done rest site.journal.events)
    (hseen : pass = .software → seen.isSome = true) :
    IsTried p first config hasInventory cs (settleNext p site
      (.opened config hasInventory cs) pass (seen.getD []) rest) := by
  cases rest with
  | nil =>
    cases pass with
    | restarts => exact .atPasses hv hes hc ⟨h.next, fun hf => hf _ _ hc⟩
    | software => exact isTried_verify hv hes h.passesSucceed
  | cons o rest =>
    rw [settleNext]
    cases hs : pass.settle? (seen.getD []) o with
    | ok o' =>
      have ho := Pass.exists_settle?_eq_ok_iff.1 ⟨o', hs⟩
      exact .atPasses hv hes hc ⟨seen, done ++ [o], h.settle ho, rfl, hseen⟩
    | error e =>
      have ho : ¬ pass.CanSettle (seen.getD []) o := fun ho => by
        obtain ⟨o', ho'⟩ := Pass.exists_settle?_eq_ok_iff.2 ho
        rw [hs] at ho'
        cases ho'
      exact .passFailed hv hes (h.not_passesSucceed hseen ho)

lemma isTried_settleAll
    (h : Surveyed pass none [] rest site.journal.events) :
    IsTried p first config hasInventory cs (settleAll p site
      (.opened config hasInventory cs) rest pass) := by
  cases pass with
  | restarts => exact isTried_settleNext hv hes hc h fun hp => by cases hp
  | software =>
    rw [settleAll]
    split
    · next hnil =>
      rw [List.isEmpty_iff.1 hnil] at h
      exact isTried_verify hv hes h.passesSucceed
    · exact .atPasses hv hes hc h

omit hv hc in
/-- A call of a pass enters its answer. -/
lemma onlyPasses_answered (world : σ) {e : Event}
    (he : e.isOfPasses = true) :
    OnlyPasses (site.answered world e).journal.events := by
  rw [(Site.Enters.answered site world e).events]
  exact hes.append (List.forall_mem_singleton.2 (.inl he))

omit hc in
/-- A call of a pass fails, and so does the startup. -/
lemma isTried_failed (world : σ) {e : Event} (he : e.isOfPasses = true)
    (hf : e.failsPass = true) (pass : Pass) (cause : String) :
    IsTried p first config hasInventory cs (failPass (site.answered world e)
      (.opened config hasInventory cs) pass cause) := by
  have hmem : e ∈ (site.answered world e).journal.events := by
    rw [(Site.Enters.answered site world e).events]
    exact List.mem_append_right _ (List.mem_singleton_self e)
  exact .passFailed hv (onlyPasses_answered hes world he)
    (not_passesSucceed_of_mem hmem hf)

/-- The platform answers with a page. -/
lemma isTried_querying {page due : Nat}
    (h : Surveyed pass none [] rest site.journal.events)
    (hends : FinitePages p config.pageSize first →
      EndsPaging p pass config.pageSize site.world page) :
    IsTried p first config hasInventory cs (resume p site
      (.opened config hasInventory cs) (.querying pass page rest due)) := by
  obtain ⟨r, world, hr⟩ : ∃ r world, p.query site.world pass.kind .executing
      config.pageSize page = (r, world) := ⟨_, _, rfl⟩
  have hquery : site.query p pass.kind .executing config.pageSize page
      = (r, site.answered world
        (.query pass.kind .executing config.pageSize page r)) := by
    rw [Site.query, hr]
  rw [resume, show (Service.opened config hasInventory cs).config = config
    from rfl, hquery]
  have hes' := onlyPasses_answered hes world
    (e := .query pass.kind .executing config.pageSize page r) rfl
  have hc' : p.ComesTo first world := by
    have hquery := hc.query pass.kind .executing config.pageSize page
    rwa [hr] at hquery
  cases r with
  | error e => exact isTried_failed hv hes world rfl rfl pass _
  | ok batch =>
    have hs := h.query config.pageSize page batch
    rw [← (Site.Enters.answered site world _).events] at hs
    dsimp only
    split
    · exact isTried_settleAll hv hes' hc' hs
    · next hnext =>
      simp only [Bool.or_eq_true, Bool.not_eq_true', not_or,
        Bool.not_eq_false, List.isEmpty_iff] at hnext
      refine .atPasses hv hes' hc' ⟨hs, fun hf => ?_⟩
      cases hends hf with
      | page _ h =>
        rw [hr] at h
        exact h batch rfl hnext.1 hnext.2

/-- The platform shows the installed software. -/
lemma isTried_inspecting {due : Nat}
    (h : Surveyed .software none [] rest site.journal.events) :
    IsTried p first config hasInventory cs (resume p site
      (.opened config hasInventory cs) (.inspecting rest due)) := by
  obtain ⟨r, world, hr⟩ : ∃ r world, p.installed site.world = (r, world) :=
    ⟨_, _, rfl⟩
  have hinstalled : site.installed p
      = (r, site.answered world (.installed r)) := by
    rw [Site.installed, hr]
  rw [resume, hinstalled]
  cases r with
  | error e => exact isTried_failed hv hes world rfl rfl .software _
  | ok l =>
    have hs := h.inspect l
    rw [← (Site.Enters.answered site world _).events] at hs
    have hc' : p.ComesTo first world := by
      have hinstalled := hc.installed
      rwa [hr] at hinstalled
    exact isTried_settleNext hv (onlyPasses_answered hes world rfl) hc' hs
      fun _ => rfl

/-- The platform has taken a settled operation. -/
lemma isTried_settling {o : Operation} {due : Nat}
    (h : Surveyed pass seen done rest site.journal.events)
    (hseen : pass = .software → seen.isSome = true) :
    IsTried p first config hasInventory cs (resume p site
      (.opened config hasInventory cs)
      (.settling pass (seen.getD []) o rest due)) := by
  obtain ⟨r, world, hr⟩ : ∃ r world, p.update site.world o = (r, world) :=
    ⟨_, _, rfl⟩
  have hupdate : site.update p o
      = (r, site.answered world (.update o r)) := by
    rw [Site.update, hr]
  rw [resume, hupdate]
  cases r with
  | error e => exact isTried_failed hv hes world rfl rfl pass _
  | ok u =>
    obtain ⟨es, he, hpasses, hsilent⟩ : ∃ es,
        site.Enters es ((site.answered world (.update o (.ok u))).note
          (.counted (.reconciled pass.kind o.status)))
        ∧ (∀ e ∈ es, e.isOfPasses = true)
        ∧ ∀ e ∈ es, e.tellsPasses = false :=
      ⟨_, (Site.Enters.answered site world _).note _, by simp [Event.isOfPasses],
        by simp [Event.tellsPasses]⟩
    have hs := h.append hsilent
    have hes' := hes.append fun e hmem => .inl (hpasses e hmem)
    have hc' : p.ComesTo first world := by
      have hupdate := hc.update o
      rwa [hr] at hupdate
    rw [← he.events] at hs hes'
    exact isTried_settleNext hv hes' hc' hs hseen

/-- What a startup does in its passes when its time has come. -/
lemma isTried_resume {u : Startup}
    (hu : u.Surveys p config.pageSize first site.world
      site.journal.events) :
    IsTried p first config hasInventory cs
      (u.resume p site (.opened config hasInventory cs)) := by
  cases u with
  | querying => exact isTried_querying hv hes hc hu.1 hu.2
  | inspecting => exact isTried_inspecting hv hes hc hu
  | settling =>
    obtain ⟨seen, done, hs, rfl, hseen⟩ := hu
    exact isTried_settling hv hes hc hs hseen
  | starting | publishing | undoing => exact hu.elim

end Startup

/-! ### Runs -/

namespace Tried

variable {σ : Type} {p : Platform σ} {first world : σ} {config : Config}
  {hasInventory : Bool} {cs : List Handler} {es es' : List Event}
  {sv : Service} {call : ServiceCall}

lemma begun (h : Tried p first world config hasInventory cs es sv call) :
    sv.begun = true := by
  cases h with
  | refused | atPasses | passFailed | duplicate => rfl
  | bringing _ _ _ _ hb | unwound _ _ _ hb | up _ _ _ hb => exact hb

/-- Nobody takes the service down. -/
lemma ne_takedown (h : Tried p first world config hasInventory cs es sv call)
    (t : Takedown) : call ≠ .takedown t := by
  cases h <;> exact ServiceCall.noConfusion

/-- A caller returns. -/
lemma noted (h : Tried p first world config hasInventory cs es sv call) (i : Nat) :
    Tried p first world config hasInventory cs (es ++ [.returned i]) sv call := by
  have hsilent : ∀ e ∈ [Event.returned i], e.tellsPasses = false :=
    List.forall_mem_singleton.2 rfl
  have hquiet : OnlyPasses [.returned i] :=
    List.forall_mem_singleton.2 (.inr ⟨i, rfl⟩)
  have hiff : PassesSucceed (es ++ [.returned i]) ↔ PassesSucceed es :=
    passesSucceed_append hsilent
  cases h with
  | refused hv hes => exact .refused hv (hes.append hquiet)
  | @atPasses u hv hes hc hu =>
    refine .atPasses hv (hes.append hquiet) hc ?_
    cases u with
    | querying => exact ⟨hu.1.append hsilent, hu.2⟩
    | inspecting => exact hu.append hsilent
    | settling =>
      obtain ⟨seen, done, hs, hrest⟩ := hu
      exact ⟨seen, done, hs.append hsilent, hrest⟩
    | starting | publishing | undoing => exact hu.elim
  | passFailed hv hes hp =>
    exact .passFailed hv (hes.append hquiet) (mt hiff.1 hp)
  | duplicate hv hes hp hd =>
    exact .duplicate hv (hes.append hquiet) (hiff.2 hp) hd
  | bringing hv hp hd hu hb hbare hg hto =>
    exact .bringing hv (hiff.2 hp) hd hu hb hbare hg hto
  | unwound hv hp hd hb hbare hg hpanic =>
    exact .unwound hv (hiff.2 hp) hd hb hbare hg hpanic
  | up hv hp hd hb hw hs => exact .up hv (hiff.2 hp) hd hb hw hs

/-- The startup goes on. -/
lemma step {site : Site σ} {u : Startup} {c : CallState σ}
    (h : Tried p first site.world config hasInventory cs
      site.journal.events sv (.startup u)) (hs : u.step p site sv = some c) :
    Startup.IsTried p first config hasInventory cs c := by
  cases h with
  | atPasses hv hes hc hu =>
    rw [Startup.step] at hs
    split at hs
    · obtain rfl := Option.some.inj hs
      exact Startup.isTried_resume hv hes hc hu
    · cases hs
  | bringing hv hp hd hu hb hbare hg hto =>
    obtain ⟨es, he, hm⟩ := Startup.step_cases hs
    refine .of_brings hv ?_ hd hb hbare hto (hm.brings hu hg)
    rw [he.events]
    exact (passesSucceed_append (hm.silent hu)).2 hp

/-- A worker takes a step. -/
lemma setWorker {site site' : Site σ} {new : List Event} {w w' : Worker}
    (h : Tried p first site.world config hasInventory cs
      site.journal.events sv call) (hw : sv.worker = some w)
    (hg : site.Gains new site') (hs : w'.state = w.state) :
    Tried p first site'.world config hasInventory cs site'.journal.events
      { sv with worker := some w' } call := by
  obtain ⟨es, he, -, hes⟩ := hg.enters
  rw [he.events]
  cases h with
  | refused | atPasses | passFailed | duplicate => cases hw
  | bringing _ _ _ _ _ hbare | unwound _ _ _ _ hbare =>
    rw [hbare.worker] at hw
    cases hw
  | up hv hp hd hb hw₀ hs₀ =>
    obtain rfl := Option.some.inj (hw₀.symm.trans hw)
    exact .up hv ((passesSucceed_append fun e hmem =>
      Event.silent_of_isOfWorker (hes e hmem)).2 hp) hd hb rfl (hs.trans hs₀)

/-- A group of handlers that stop again takes a step. -/
lemma setShutdown {group : Nat} {d d' : Shutdown}
    (h : Tried p first world config hasInventory cs es sv call)
    (hd : sv.shutdowns[group]? = some d)
    (hes : ∀ e ∈ es', e.tellsPasses = false) (world' : σ) :
    Tried p first world' config hasInventory cs (es ++ es')
      { sv with shutdowns := sv.shutdowns.set group d' } call := by
  have hiff : PassesSucceed (es ++ es') ↔ PassesSucceed es :=
    passesSucceed_append hes
  cases h with
  | refused | atPasses | passFailed | duplicate => cases hd
  | unwound _ _ _ _ _ hg =>
    rw [hg] at hd
    cases hd
  | @bringing t sv u hv hp ht hu hb hbare hg hto =>
    refine .bringing hv (hiff.2 hp) ht hu hb ⟨hbare.worker, hbare.active⟩ ?_
      hto
    cases u with
    | querying | inspecting | settling | starting | publishing =>
      rw [show sv.shutdowns = [] from hg] at hd
      cases hd
    | undoing i =>
      obtain ⟨hi, d₀, hsd⟩ := hg
      refine ⟨hi, d', ?_⟩
      rw [hsd] at hd ⊢
      cases group with
      | zero => rfl
      | succ group => cases hd
  | up hv hp ht hb hw hs => exact .up hv (hiff.2 hp) ht hb hw hs

end Tried

namespace ServiceSystem

variable {σ : Type} {p : Platform σ} {s s' : ServiceSystem σ} {now : Nat}
  {first world : σ} {config : Config} {hasInventory : Bool}
  {cs : List Handler} {call : ServiceCall}

/-- A run in which a service is started any number of times, whenever
somebody likes, and is not stopped.  The tasks take their steps in any
order. -/
inductive Attempts (p : Platform σ) (now : Nat) (world : σ)
    (config : Config) (hasInventory : Bool) (cs : List Handler) :
    ServiceSystem σ → Prop where
  | first : Attempts p now world config hasInventory cs
    (start p { site := { now, world }, service :=
      { config, hasInventory, candidates := cs } })
  | again {s : ServiceSystem σ}
    (h : Attempts p now world config hasInventory cs s) :
    Attempts p now world config hasInventory cs (s.start p)
  | step {s s' : ServiceSystem σ}
    (h : Attempts p now world config hasInventory cs s)
    (hs : (machine p).Step s s') :
    Attempts p now world config hasInventory cs s'

lemma Attempts.of_runs (h : Attempts p now world config hasInventory cs s)
    (hr : (machine p).Runs s s') :
    Attempts p now world config hasInventory cs s' := by
  induction hr with
  | refl => exact h
  | tail _ hs ih => exact ih.step hs

/-- The first call of a service, and later ones that were all refused. -/
structure Tries (p : Platform σ) (first : σ) (config : Config)
    (hasInventory : Bool) (cs : List Handler) (s : ServiceSystem σ)
    (call : ServiceCall) : Prop where
  callers : ∃ later, s.callers = call :: later
    ∧ ∀ c ∈ later, c = .returned (.error .alreadyStarted)
  tried : Tried p first s.site.world config hasInventory cs
    s.site.journal.events s.service call

/-- Somebody returns, or nobody does. -/
lemma tried_noteReturn {site : Site σ} {sv : Service}
    (h : Tried p first site.world config hasInventory cs
      site.journal.events sv call) (i : Nat) (c : ServiceCall) :
    Tried p first (noteReturn site i c).world config hasInventory cs
      (noteReturn site i c).journal.events sv call := by
  rw [noteReturn]
  split
  · rw [((Site.Enters.refl site).note _).events]
    exact h.noted i
  · exact h

namespace Tries

/-- A start of a service that was started before does nothing but say
so. -/
lemma start_eq (h : Tries p first config hasInventory cs s call) : s.start p = {
    site := s.site.note (.returned s.callers.length)
    service := s.service
    callers := s.callers ++ [.returned (.error .alreadyStarted)] } := by
  rw [ServiceSystem.start, Startup.begin, h.tried.begun]
  rfl

lemma start (h : Tries p first config hasInventory cs s call) :
    Tries p first config hasInventory cs (s.start p) call := by
  rw [h.start_eq]
  obtain ⟨later, heq, hlater⟩ := h.callers
  refine ⟨⟨later ++ [.returned (.error .alreadyStarted)], ?_, ?_⟩, ?_⟩
  · rw [heq, List.cons_append]
  · exact List.forall_mem_append.2 ⟨hlater, List.forall_mem_singleton.2 rfl⟩
  · rw [((Site.Enters.refl s.site).note _).events]
    exact h.tried.noted _

/-- A task takes a step. -/
lemma move (h : Tries p first config hasInventory cs s call)
    (hm : ServiceMove p s s') :
    ∃ call', Tries p first config hasInventory cs s' call' := by
  cases hm with
  | loop hw hs =>
    obtain ⟨new, hg⟩ := Worker.gains_stepLoop hs
    exact ⟨call, h.callers,
      h.tried.setWorker hw hg (Worker.stepLoop_phases hs).2⟩
  | call hw hs =>
    obtain ⟨new, hg⟩ := Worker.gains_stepCall hs
    exact ⟨call, h.callers,
      h.tried.setWorker hw hg (Worker.stepCall_phases hs).2⟩
  | stop hd hs =>
    refine ⟨call, h.callers, ?_⟩
    obtain ⟨t, es, phase, -, hmove, he, -⟩ := Shutdown.stepTask_cases hs
    show Tried _ _ _ _ _ _ _ _ _
    rw [ServiceSystem.setShutdown, he.events]
    refine h.tried.setShutdown hd (fun e hmem => ?_) _
    cases hmove with
    | begin | finish =>
      rw [List.mem_singleton.1 hmem]
      rfl
    | cut | fail => cases hmem
  | @wait group d d' hd hs =>
    refine ⟨call, h.callers, ?_⟩
    show Tried _ _ _ _ _ _ s.site.journal.events _ _
    rw [← List.append_nil s.site.journal.events]
    exact h.tried.setShutdown hd (List.forall_mem_nil _) _
  | @caller i c c' hc hs =>
    obtain ⟨later, heq, hlater⟩ := h.callers
    rw [heq] at hc
    cases i with
    | succ i =>
      rw [hlater c (List.mem_of_getElem? hc)] at hs
      cases hs
    | zero =>
      obtain rfl : call = c := Option.some.inj hc
      refine ⟨c'.call, ⟨later, by rw [heq]; rfl, hlater⟩, ?_⟩
      refine tried_noteReturn ?_ 0 c'.call
      cases call with
      | startup u => exact h.tried.step hs
      | takedown t => exact absurd rfl (h.tried.ne_takedown t)
      | returned | unwound => cases hs

/-- A task takes a step, or the clock moves. -/
lemma step (h : Tries p first config hasInventory cs s call)
    (hs : (machine p).Step s s') :
    ∃ call', Tries p first config hasInventory cs s' call' := by
  cases hs with
  | run t ht => exact h.move (step_cases ht)
  | wait => exact ⟨call, h.callers, h.tried⟩

end Tries

/-- How far the first startup is in a run. -/
theorem Attempts.tried
    (h : Attempts p now world config hasInventory cs s) :
    ∃ call, Tries p world config hasInventory cs s call := by
  induction h with
  | first =>
    have hbegun : Service.begun
        { config, hasInventory, candidates := cs } = false := rfl
    obtain ⟨call, hb, hcall⟩ :=
      Startup.begin_cases (p := p) { now, world } hbegun
    have hes : OnlyPasses (Journal.events []) := List.forall_mem_nil _
    rw [start, hb]
    refine ⟨call, ⟨[], rfl, List.forall_mem_nil _⟩,
      tried_noteReturn ?_ 0 call⟩
    cases hcall with
    | passes hv =>
      exact .atPasses hv hes .refl ⟨.nil, fun hf => hf _ _ .refl⟩
    | refused hv => exact .refused hv hes
  | again h ih =>
    obtain ⟨call, ih⟩ := ih
    exact ⟨call, ih.start⟩
  | step h hs ih =>
    obtain ⟨call, ih⟩ := ih
    exact ih.step hs

end ServiceSystem

end RemoteOps
