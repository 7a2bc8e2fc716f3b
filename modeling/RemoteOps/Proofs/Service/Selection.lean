/-
The handlers that are left of a dispatch table.

Dropping handlers from the table of some candidates leaves the table of
those candidates that are not dropped, and dropping more of them is
dropping all at once.  A startup has a flag for each handler that it told
to start and drops the handlers by their places; it keeps those that have
started.

* `HandlerTable.IsDispatching.eq_of_registrations_eq`: a table is known by
  its registrations;
* `HandlerTable.verify_filter`: the table of the candidates that pass a
  test;
* `HandlerTable.registrations_retainFlagged`: flags are taken in the order
  of the handlers;
* `ServiceSystem.Selects`: what a startup has kept;
* `ServiceSystem.selected_of_verify`: filtering a table is rebuilding it.
-/
import RemoteOps.Proofs.Dispatching
import RemoteOps.Proofs.Service.Serving

namespace RemoteOps

namespace HandlerTable

variable {t t' : HandlerTable} {cs : List Handler}

/-! ### Filtering and rebuilding -/

/-- A table in which every kind has one owner is known by its
registrations. -/
lemma IsDispatching.eq_of_registrations_eq (h : IsDispatching t)
    (h' : IsDispatching t') (hr : t.registrations = t'.registrations) :
    t = t' := by
  have hplaces : t.byKind = t'.byKind := by
    refine Dict.ext_find? fun kind => Option.ext fun i => ?_
    calc t.byKind.find? kind = some i
        ↔ ∃ r, t.registrations[i]? = some r ∧ kind ∈ r.kinds :=
          h.place kind i
      _ ↔ ∃ r, t'.registrations[i]? = some r ∧ kind ∈ r.kinds := by rw [hr]
      _ ↔ t'.byKind.find? kind = some i := (h'.place kind i).symm
  cases t
  cases t'
  simp_all

/-- The candidates that pass a test have a table, and it is what the test
leaves of the table of all candidates. -/
lemma verify_filter (hv : verify cs = .ok t) (keep : Handler → Bool) :
    verify (cs.filter keep) = .ok (t.retain keep) := by
  have hdis : cs.Pairwise fun a b => a.kinds.Disjoint b.kinds :=
    exists_verify_eq_ok_iff.1 ⟨t, hv⟩
  obtain ⟨t', hv'⟩ := exists_verify_eq_ok_iff.2 (hdis.filter keep)
  have hreg : t'.registrations = (t.retain keep).registrations := by
    rw [(verify_eq_ok hv').1, registrations_retain hv]
  have hleft : IsDispatching (t.retain keep) :=
    (Retained.keep .refl _ ()).isDispatching hv
  have hnew : IsDispatching t' := Retained.isDispatching hv' .refl
  rw [hv', hnew.eq_of_registrations_eq hleft hreg]

/-- Two tests one after the other leave what both of them leave. -/
lemma retain_retain (t : HandlerTable) (keep keep' : Handler → Bool) :
    (t.retain keep).retain keep'
      = t.retain fun h => keep h && keep' h := by
  rw [retain_eq, retain_eq, retain_eq, registrations_ofRegistrations,
    List.filter_filter]
  simp only [Bool.and_comm]

/-! ### Flags -/

/-- The next of some flags, whichever handler is asked about; there is no
flag for a handler when they have run out. -/
def nextFlag (_ : Handler) : StateM (List Bool) Bool := fun flags =>
  (flags.headD false, flags.tail)

/-- Keeps the handlers whose flags are set. -/
def retainFlagged (t : HandlerTable) (flags : List Bool) : HandlerTable :=
  ((t.retainWith nextFlag).run flags).1

/-- Flags are taken in the order of the handlers. -/
lemma retainFlagged_eq (t : HandlerTable) (flags : List Bool) :
    t.retainFlagged flags = ofRegistrations
      (((t.registrations.zip flags).filter (·.2)).map (·.1)) := by
  rw [retainFlagged, retainWith, ofRegistrations]
  generalize empty = kept
  induction t.registrations generalizing kept flags with
  | nil => rfl
  | cons r rs ih =>
    rw [run_foldlM_pushIf]
    cases flags with
    | nil =>
      -- all other handlers are without a flag, too
      have hrest := ih [] kept
      rw [List.zip_nil_right] at hrest
      exact hrest
    | cons flag flags =>
      rw [List.zip_cons_cons, List.filter_cons]
      cases flag with
      | true => exact ih flags (kept.push r)
      | false => exact ih flags kept

lemma registrations_retainFlagged (t : HandlerTable) (flags : List Bool) :
    (t.retainFlagged flags).registrations
      = ((t.registrations.zip flags).filter (·.2)).map (·.1) := by
  rw [retainFlagged_eq, registrations_ofRegistrations]

/-- Flags for the first handlers of a table that tell how each does in a
test keep those of them that pass it. -/
lemma retainFlagged_map {done rest : List Registration}
    (hreg : t.registrations = done ++ rest) (keep : Handler → Bool) :
    t.retainFlagged (done.map fun r => keep r.handler)
      = ofRegistrations (done.filter fun r => keep r.handler) := by
  have hzip : ∀ rs : List Registration,
      (((rs ++ rest).zip (rs.map fun r => keep r.handler)).filter
        (·.2)).map (·.1) = rs.filter fun r => keep r.handler := by
    intro rs
    induction rs with
    | nil => simp
    | cons r rs ih =>
      rw [List.cons_append, List.map_cons, List.zip_cons_cons,
        List.filter_cons, List.filter_cons]
      cases keep r.handler with
      | true => simp [ih]
      | false => simp [ih]
  rw [retainFlagged_eq, hreg, hzip]

/-- Flags that tell how each handler does in a test keep what the test
keeps. -/
lemma retainFlagged_handlers (t : HandlerTable) (keep : Handler → Bool) :
    t.retainFlagged (t.handlers.map keep) = t.retain keep := by
  have hmap : t.handlers.map keep
      = t.registrations.map fun r => keep r.handler := by
    rw [handlers, List.map_map]
    rfl
  rw [hmap, retainFlagged_map (List.append_nil _).symm, retain_eq]

end HandlerTable

/-! ### The flags of a startup -/

section Kept

variable {cs : List Handler} {t kept : HandlerTable}
  {started : List Component} {published : List (List String)}
  {sv : Service} {rest : List Registration}

/-- A startup has kept those of the handlers before the next one that
have started. -/
lemma Starting.eq_retainFlagged (hv : HandlerTable.verify cs = .ok t)
    (h : Starting cs started published sv kept rest) :
    ∃ done, t.registrations = done ++ rest
      ∧ kept = t.retainFlagged (done.map fun r => r.handler.starts) := by
  obtain ⟨all, done, hall, hreg, hkept⟩ := h.kept
  obtain rfl : t = all := Except.ok.inj (hv.symm.trans hall)
  exact ⟨done, hreg,
    hkept.trans (HandlerTable.retainFlagged_map hreg Handler.starts).symm⟩

/-- The table of the candidates that start is kept by their flags. -/
lemma IsKept.eq_retainFlagged (hv : HandlerTable.verify cs = .ok t)
    (h : IsKept cs kept) :
    kept = t.retainFlagged (t.handlers.map Handler.starts) := by
  obtain ⟨all, hall, hkept⟩ := h
  obtain rfl : t = all := Except.ok.inj (hv.symm.trans hall)
  rw [hkept, HandlerTable.retainFlagged_handlers]

end Kept

namespace ServiceSystem

variable {σ : Type} {p : Platform σ} {n now : Nat} {world : σ}
  {config : Config} {hasInventory : Bool} {cs : List Handler}
  {s : ServiceSystem σ} {t : HandlerTable}

/-- What a startup has kept of the table of its candidates: by the flags
of the handlers that were told to start, those that have started. -/
structure Selects (t : HandlerTable) (s : ServiceSystem σ) : Prop where
  /-- While a handler is being started, the ones before it have flags. -/
  starting : ∀ kept r rest due,
    .startup (.starting kept r rest due) ∈ s.callers →
      s.site.journal.started = kept.components
        ∧ ∃ done, t.registrations = done ++ r :: rest
          ∧ kept = t.retainFlagged (done.map fun r => r.handler.starts)
  /-- In the end all of them have flags, and the kinds of those that are
  kept are published. -/
  publishing : ∀ kept due, .startup (.publishing kept due) ∈ s.callers →
    s.site.journal.started = kept.components
      ∧ kept = t.retainFlagged (t.handlers.map Handler.starts)
  /-- After the startup the worker has the table of those that are kept,
  or an empty one if nothing was published. -/
  serving : s.answer? 0 = some (.ok ()) →
    s.site.journal.started
        = (t.retainFlagged (t.handlers.map Handler.starts)).components
      ∧ ∃ w, s.service.worker = some w
        ∧ (w.table = t.retainFlagged (t.handlers.map Handler.starts)
          ∨ w.table = .empty ∧ s.site.journal.published = [])

/-- A call that has not returned is the present one. -/
lemma Present.eq_of_mem {call c : ServiceCall} (h : s.Present n call)
    (hc : c ∈ s.callers) (hopen : c.isOver = false) : call = c := by
  obtain ⟨i, hi⟩ := List.mem_iff_getElem?.1 hc
  obtain rfl := h.sole.others i c hi hopen
  exact Option.some.inj (h.getElem?_eq.symm.trans hi)

lemma Life.selects (hv : HandlerTable.verify cs = .ok t)
    (h : Life p now world config hasInventory cs 0 s) : Selects t s := by
  obtain ⟨call, hp, hroster⟩ := h.keeps (kept_roster p cs)
    fun _ hcall => onRoster_begin hcall
  refine ⟨fun kept r rest due hc => ?_, fun kept due hc => ?_, fun hr => ?_⟩
  · obtain rfl := hp.eq_of_mem hc rfl
    have hstart : Starting cs s.site.journal.started
        s.site.journal.published s.service kept (r :: rest) := hroster.2
    exact ⟨hstart.started, hstart.eq_retainFlagged hv⟩
  · obtain rfl := hp.eq_of_mem hc rfl
    have hstart : Starting cs s.site.journal.started
        s.site.journal.published s.service kept [] := hroster.2
    exact ⟨hstart.started, hstart.isKept.eq_retainFlagged hv⟩
  · obtain rfl : call = .returned (.ok ()) :=
      Option.some.inj (hp.getElem?_eq.symm.trans (answer?_eq_some.1 hr))
    obtain ⟨hworker, hfallen | ⟨kept, w, hrisen⟩⟩ := hroster
    · exact absurd hfallen.worker (hworker rfl rfl)
    · rw [← hrisen.kept.eq_retainFlagged hv]
      refine ⟨hrisen.started, w, hrisen.worker, ?_⟩
      exact hrisen.table.imp And.left id

/-- Filtering the table of some candidates is rebuilding it: the handlers,
the kinds and the owners are those of the table of the candidates that
pass the test.  Tests one after the other are one test.  Flags keep the
handlers that stand at their places, so that a startup keeps exactly those
whose own start has succeeded, however many fail. -/
theorem selected_of_verify (hv : HandlerTable.verify cs = .ok t) :
    (∀ keep, HandlerTable.verify (cs.filter keep) = .ok (t.retain keep))
      ∧ (∀ keep keep', (t.retain keep).retain keep'
        = t.retain fun h => keep h && keep' h)
      ∧ (∀ flags, (t.retainFlagged flags).registrations
        = ((t.registrations.zip flags).filter (·.2)).map (·.1))
      ∧ (∀ keep, t.retainFlagged (t.handlers.map keep) = t.retain keep)
      ∧ ∀ (σ : Type) (p : Platform σ) (now : Nat) (world : σ)
        (config : Config) (hasInventory : Bool) (s : ServiceSystem σ),
        Life p now world config hasInventory cs 0 s → Selects t s :=
  ⟨HandlerTable.verify_filter hv, t.retain_retain,
    t.registrations_retainFlagged, t.retainFlagged_handlers,
    fun _ _ _ _ _ _ _ h => h.selects hv⟩

/-- A service that waits for the inventory, after it has told the first
two of three candidates to start; the third one declares no kinds. -/
def publishingService : ServiceSystem (MemoryPlatform × Unit) :=
  let slow : Host Unit :=
    { Host.prompt with delay := fun _ c => if c = .publish then 5 else 0 }
  (machine slow.platform).settle 60 (start slow.platform {
    site := { now := 0, world := ({}, ()) }
    service := { config := {}, candidates := threeCandidates } })

/-- The first candidate has started and the second one has not: the flags
leave the first. -/
theorem selected_publishingService :
    ∃ t kept, HandlerTable.verify threeCandidates = .ok t
      ∧ t.handlers.map Handler.starts = [true, false]
      ∧ .startup (.publishing kept 5) ∈ publishingService.callers
      ∧ kept = t.retainFlagged [true, false]
      ∧ kept.kindNames = [Kind.restart]
      ∧ HandlerTable.verify (threeCandidates.filter Handler.starts)
        = .ok kept := by
  obtain ⟨t, hv⟩ : ∃ t, HandlerTable.verify threeCandidates = .ok t :=
    ⟨_, rfl⟩
  obtain ⟨hfilter, -, -, hflags, hlife⟩ := selected_of_verify hv
  have hreg := (HandlerTable.verify_eq_ok hv).1
  have hstarts : t.handlers.map Handler.starts = [true, false] := by
    rw [HandlerTable.handlers, hreg]
    decide
  have hselects : Selects t publishingService := hlife _ _ 0 _ {} true _
    (Life.start.of_runs (Machine.settle_runs 60 _))
  obtain ⟨kept, hkept⟩ : ∃ kept,
      .startup (.publishing kept 5) ∈ publishingService.callers :=
    ⟨_, List.mem_singleton.2 rfl⟩
  have heq := (hselects.publishing kept 5 hkept).2
  rw [hflags] at heq
  refine ⟨t, kept, hv, hstarts, hkept, ?_, ?_, ?_⟩
  · rw [heq, ← hflags, hstarts]
  · rw [heq, HandlerTable.kindNames_retain hv]
    decide
  · rw [heq, hfilter]

end ServiceSystem

end RemoteOps
