/-
What a service serves that has been started, and what it advertises.

The kinds that were published are those of the table by which the worker
dispatches, and these are the declared kinds of the handlers that have
started.  If nothing was published, nothing is served.

* `IsKept.owner`: the owner of a kind is the one candidate for it;
* `Delivered`, `Treats`: how a pending operation is to be dispatched;
* `ServiceSystem.Serving`: the invariant of the worker, from the startup
  to the first stop;
* `ServiceSystem.serves_of_answer`: advertised equals served.
-/
import RemoteOps.Proofs.Platform.Hosted
import RemoteOps.Proofs.Service.Roster
import RemoteOps.Proofs.Service.Runs

namespace RemoteOps

variable {cs : List Handler} {t : HandlerTable}

/-! ### The table of the handlers that start -/

/-- The owner of a kind is the one candidate that declares it, and has
started. -/
lemma IsKept.owner (hk : IsKept cs t) {kind : String} {h : Handler}
    (ho : t.handlerFor? kind = some h) :
    cs.filter (kind ∈ ·.kinds) = [h] ∧ h.starts = true := by
  obtain ⟨all, hv, rfl⟩ := hk
  obtain ⟨r, hr, rfl, hkind⟩ := HandlerTable.handlerFor?_eq_some ho
  rw [HandlerTable.registrations_retain hv, HandlerTable.registrationsOf,
    List.mem_map] at hr
  obtain ⟨h, hh, rfl⟩ := hr
  obtain ⟨hmem, hstarts⟩ := List.mem_filter.1 (List.mem_filter.1 hh).1
  exact ⟨HandlerTable.filter_eq_singleton hv hmem
    (List.mem_eraseDups.1 hkind), hstarts⟩

/-! ### Dispatching -/

/-- A handler is called rightly for an operation that was handed out. -/
structure Delivered (cs : List Handler) (supported : List String)
    (o : Operation) (h : Handler) (t : TypedOperation) : Prop where
  pending : o.status = .pending
  converted : ∃ t₀, Matching.convert? o supported = some t₀
    ∧ t₀.kind = t.kind
  /-- The handler is the one candidate that declares the kind. -/
  owner : cs.filter (t.kind ∈ ·.kinds) = [h]
  starts : h.starts = true
  id : t.id = o.id
  status : t.status = .executing
  /-- All other fragments travel along. -/
  extra : ∀ name, t.header.extra.find? name
    = if name = t.kind then none else o.fragment? name

/-- The calls of a cycle treat a pending operation rightly, unless one of
its writes has failed: a handler is called for it if it can be converted,
and it is reported as failed otherwise. -/
def Treats (cs : List Handler) (supported : List String)
    (calls : List Event) : Prop :=
  ∀ o, o.status = .pending → .poll (.ok (some o)) ∈ calls →
    (∀ id status reason e, .status id status reason (.error e) ∉ calls) →
    match Matching.convert? o supported with
    | some _ => ∃ h t out, Delivered cs supported o h t
      ∧ calls = claimOf o ++ [.execute h t,
        .status o.id (report out).status (report out).reason (.ok ())]
    | none => ∃ reason, calls = [.poll (.ok (some o)),
      .status o.id .failed (some reason) (.ok ())]

section Cycles

variable {calls : List Event} {cores : List HandlerCall}
  {phase : LoopPhase} {h : Handler} {op : TypedOperation}

/-- A handler is called in a cycle for the operation that was handed
out. -/
lemma Cycle.dispatched (hc : Cycle t calls) (he : .execute h op ∈ calls) :
    ∃ o, .poll (.ok (some o)) ∈ calls ∧ Dispatched t o op h := by
  cases hc with
  | @served o op' h' out r hd =>
    obtain ⟨rfl, rfl⟩ : h = h' ∧ op = op' := by simpa [claimOf] using he
    exact ⟨o, by simp [claimOf], hd⟩
  | pollFailed | nothing | refused _ | rejected _ | unclaimed _ =>
    simp at he

lemma InCycle.dispatched (hc : InCycle t cores calls phase)
    (he : .execute h op ∈ calls) :
    ∃ o, .poll (.ok (some o)) ∈ calls ∧ Dispatched t o op h := by
  cases phase with
  | spawned | polling =>
    rw [show calls = [] from hc] at he
    cases he
  | idle => exact Cycle.dispatched hc he
  | exited =>
    rcases hc with rfl | hc
    · cases he
    · exact hc.dispatched he
  | rejecting =>
    obtain ⟨o, reason, rfl, -⟩ := hc
    simp at he
  | claiming =>
    obtain ⟨o, rfl, -⟩ := hc
    simp at he
  | executing o' n =>
    obtain ⟨o, c, -, hd, -, rfl⟩ := hc
    split at he
    · simp [claimOf] at he
    · obtain ⟨rfl, rfl⟩ : h = c.handler ∧ op = c.operation := by
        simpa [claimOf] using he
      exact ⟨o, by simp [claimOf], hd⟩
  | reporting =>
    obtain ⟨o, op', h', out, hd, rfl, -⟩ := hc
    obtain ⟨rfl, rfl⟩ : h = h' ∧ op = op' := by simpa [claimOf] using he
    exact ⟨o, by simp [claimOf], hd⟩

end Cycles

/-! ### From the startup to the first stop -/

namespace ServiceSystem

variable {σ : Type} {p : Platform σ} {site site' : Site σ} {n now : Nat}
  {sv : Service} {call : ServiceCall} {w w' : Worker} {world : σ}
  {config : Config} {hasInventory : Bool} {s : ServiceSystem σ}

/-- A worker that nobody has told to stop: what it has done is a number
of cycles, after the startup, and the present one. -/
structure Serving (site : Site σ) (w : Worker) : Prop where
  engaged : w.Engaged []
  traced : ∃ begun cycles cur,
    w.Traced (begun ++ List.flatten cycles) cur site
      ∧ (∀ e ∈ begun, e.isOfWorker = false) ∧ ∀ c ∈ cycles, Cycle w.table c

namespace Serving

lemma launched (table : HandlerTable) (interval : Span)
    (h : ∀ e ∈ site.journal.calls, e.isOfWorker = false) :
    Serving site (.launched table interval) where
  engaged := (Worker.Engaged.new table interval).start
    (fun c hc => by cases hc) rfl
  traced := ⟨site.journal.calls, [], [],
    ⟨by simp, rfl⟩, h, fun c hc => by cases hc⟩

lemma congr (h : Serving site w)
    (hj : site'.journal.calls = site.journal.calls) : Serving site' w := by
  obtain ⟨begun, cycles, cur, ht, hb, hc⟩ := h.traced
  exact ⟨h.engaged, begun, cycles, cur, ⟨hj.trans ht.calls, ht.inCycle⟩,
    hb, hc⟩

lemma stepLoop {i : Nat} (h : Serving site w)
    (hs : Worker.stepLoop p site w i = some (site', w')) :
    Serving site' w' := by
  obtain ⟨begun, cycles, cur, ht, hb, hc⟩ := h.traced
  have htab := Worker.table_stepLoop hs
  have hc' : ∀ c ∈ cycles, Cycle w'.table c := htab ▸ hc
  refine ⟨h.engaged.stepLoop hs, ?_⟩
  rcases ht.stepLoop h.engaged.one.earlier hs with ⟨es, ht'⟩
    | ⟨-, -, es, hcycle, ht'⟩ | ⟨⟨l, hl, ha⟩, -⟩
  · exact ⟨begun, cycles, cur ++ es, ht', hb, hc'⟩
  · rcases hcycle with hnil | hcycle
    · rw [hnil, List.append_nil] at ht'
      exact ⟨begun, cycles, [], ht', hb, hc'⟩
    · refine ⟨begun, cycles ++ [cur ++ es], [], ?_, hb, fun c hmem => ?_⟩
      · rw [List.flatten_concat, ← List.append_assoc begun]
        exact ht'
      · rcases List.mem_append.1 hmem with hmem | hmem
        · exact hc' c hmem
        · rw [List.mem_singleton.1 hmem, htab]
          exact hcycle
  · -- nobody has told the loop to abort
    obtain ⟨l', hl', hne, -⟩ := Worker.stepLoop_cases hs
    obtain ⟨hlast, -⟩ :=
      Worker.getLast?_of_live h.engaged.one.earlier hl' hne
    obtain rfl := Option.some.inj (hl.symm.trans hlast)
    obtain ⟨k, hk⟩ := h.engaged.aborted l hl hne ha
    cases hk

lemma stepCall {i : Nat} (h : Serving site w)
    (hs : Worker.stepCall p site w i = some (site', w')) :
    Serving site' w' := by
  obtain ⟨begun, cycles, cur, ht, hb, hc⟩ := h.traced
  have hc' : ∀ c ∈ cycles, Cycle w'.table c :=
    Worker.table_stepCall hs ▸ hc
  refine ⟨h.engaged.stepCall hs, ?_⟩
  rcases ht.stepCall h.engaged hs with ⟨es, ht'⟩ | ⟨hex, -⟩
  · exact ⟨begun, cycles, cur ++ es, ht', hb, hc'⟩
  · -- when the loop has exited, no call is open
    obtain ⟨c, es, ph, hget, hm, -, -⟩ := Worker.stepCall_cases hs
    have hover := h.engaged.isOver_of_exited hex (fun _ hi => by cases hi)
      (fun _ hn => by cases hn) c (List.mem_of_getElem? hget)
    rw [hm.isOver] at hover
    cases hover

end Serving

/-- What is known of a service before the first stop: without a worker no
call of a worker was made. -/
def IsServing (cs : List Handler) (n : Nat) (site : Site σ) (sv : Service)
    (call : ServiceCall) : Prop :=
  OnRoster cs n site sv call ∧ (n = 0 →
    (sv.worker = none → ∀ e ∈ site.journal.calls, e.isOfWorker = false)
      ∧ ∀ w, sv.worker = some w → Serving site w)

lemma IsServing.congr (h : IsServing cs n site sv call)
    {sv' : Service} {call' : ServiceCall}
    (ho : OnRoster cs n site' sv' call') (hsv : sv'.worker = sv.worker)
    (hj : site'.journal.calls = site.journal.calls) :
    IsServing cs n site' sv' call' := by
  refine ⟨ho, fun h0 => ⟨fun hw => ?_, fun w hw => ?_⟩⟩
  · rw [hj]
    exact (h.2 h0).1 (hsv ▸ hw)
  · exact ((h.2 h0).2 w (hsv ▸ hw)).congr hj

/-- What a service with a worker shows between its startup and the first
stop. -/
structure Serves (cs : List Handler) (s : ServiceSystem σ) (w : Worker) :
    Prop where
  started : s.site.journal.started
    = (servingHandlers cs).map (·.toComponent)
  /-- The kinds that were published, those that are active and those that
  the worker supports are the same, or there are none. -/
  advertised :
    s.site.journal.published = [servedKinds cs]
        ∧ s.service.activeKinds = servedKinds cs
        ∧ (∀ kind, kind ∈ w.table.supportedKinds ↔ kind ∈ servedKinds cs)
      ∨ s.site.journal.published = [] ∧ s.service.activeKinds = []
        ∧ w.table.supportedKinds = []
  distinct : (servedKinds cs).Nodup
  /-- After the startup the worker has gone through cycles, each of which
  treats its operation rightly, and is at the present one. -/
  cycles : ∃ begun cycles cur,
    s.site.journal.calls = begun ++ List.flatten cycles ++ cur
      ∧ (∀ e ∈ begun, e.isOfWorker = false)
      ∧ (∀ c ∈ cycles, Treats cs w.table.supportedKinds c)
      ∧ InCycle w.table w.cores cur w.phase
  /-- Whenever a handler was called, in the present cycle too, it was
  called rightly. -/
  delivered : ∀ h op, .execute h op ∈ s.site.journal.calls →
    ∃ o, .poll (.ok (some o)) ∈ s.site.journal.calls
      ∧ Delivered cs w.table.supportedKinds o h op

/-- Three candidates: one starts, one fails to start, and one declares no
kinds. -/
def threeCandidates : List Handler := [
  { uid := 0, name := "restarts", kinds := [Kind.restart, Kind.restart] },
  { uid := 1, name := "commands", kinds := ["c8y_Command"],
    startPhase := { ending := .failure "no permission" } },
  { uid := 2, name := "idle", kinds := [] }]

end ServiceSystem

end RemoteOps
