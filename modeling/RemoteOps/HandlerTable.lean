/-
The dispatch table: which handler owns which kind of operation.

A table is made from candidates in order.  A kind that a handler
declares again does not count, a handler without kinds is dropped, and a
kind that two handlers claim is an error.  The owner of a kind is found
by its place in the table, and a candidate enters its place for each of
its kinds before it stands there.

* `Place.find?_enter`: which places are found after some were entered;
* `Place.claim_eq_ok`, `Place.claim_eq_error`: a candidate claims its
  kinds in order, up to the first that has an owner;
* `IsIndex.push`: the places stay right when a handler is added;
* `HandlerTable.handlerFor?_eq_some`: the handler for a kind is in the
  table and declares the kind;
* `HandlerTable.retain_eq`: keeping handlers makes the table of those
  that are kept.
-/
import RemoteOps.Handler
import RemoteOps.Text.Quoted

namespace RemoteOps

/-- A handler in the table, with the kinds that it owns. -/
structure Registration where
  handler : Handler
  kinds : List String
deriving DecidableEq, Repr, Inhabited

/-! ### Places -/

namespace Place

/-- Enters a place for some kinds. -/
def enter (place : Nat) (byKind : Dict Nat) (kinds : List String) :
    Dict Nat :=
  kinds.foldl (fun d kind => d.insert kind place) byKind

/-- Enters a place for some kinds that have no place yet.  The first that
has one is an error, with that place. -/
def claim (place : Nat) (byKind : Dict Nat) :
    List String → Except (String × Nat) (Dict Nat)
  | [] => .ok byKind
  | kind :: kinds =>
    match byKind.find? kind with
    | some owner => .error (kind, owner)
    | none => claim place (byKind.insert kind place) kinds

variable {place owner : Nat} {byKind byKind' : Dict Nat}
  {kind : String} {kinds : List String}

theorem find?_enter (place : Nat) (byKind : Dict Nat)
    (kinds : List String) (kind : String) :
    (enter place byKind kinds).find? kind
      = if kind ∈ kinds then some place else byKind.find? kind := by
  induction kinds generalizing byKind with
  | nil => simp [enter]
  | cons k kinds ih =>
    have henter : enter place byKind (k :: kinds)
        = enter place (byKind.insert k place) kinds := rfl
    rw [henter, ih, Dict.find?_insert]
    by_cases hk : kind = k <;> simp [hk]

theorem claim_eq_ok (h : claim place byKind kinds = .ok byKind') :
    byKind' = enter place byKind kinds
      ∧ (kinds.Nodup → ∀ k ∈ kinds, byKind.find? k = none) := by
  induction kinds generalizing byKind with
  | nil => exact ⟨(Except.ok.inj h).symm, fun _ _ hk => by cases hk⟩
  | cons k kinds ih =>
    rw [claim] at h
    cases hf : byKind.find? k with
    | some owner =>
      rw [hf] at h
      cases h
    | none =>
      rw [hf] at h
      obtain ⟨rfl, hnew⟩ := ih h
      refine ⟨rfl, fun hn k' hk' => ?_⟩
      obtain ⟨hk, hn⟩ := List.nodup_cons.1 hn
      rcases List.mem_cons.1 hk' with rfl | hk'
      · exact hf
      · have hne : k' ≠ k := fun heq => hk (heq ▸ hk')
        have hnone := hnew hn k' hk'
        rwa [Dict.find?_insert, if_neg hne] at hnone

/-- Where no kind stands twice, a kind that has an owner had it before
all others were entered. -/
theorem claim_eq_error (hn : kinds.Nodup)
    (h : claim place byKind kinds = .error (kind, owner)) :
    byKind.find? kind = some owner ∧ ∃ before after,
      kinds = before ++ kind :: after
        ∧ ∀ k ∈ before, byKind.find? k = none := by
  induction kinds generalizing byKind with
  | nil => cases h
  | cons k kinds ih =>
    obtain ⟨hk, hn⟩ := List.nodup_cons.1 hn
    rw [claim] at h
    cases hf : byKind.find? k with
    | some owner' =>
      rw [hf] at h
      cases h
      exact ⟨hf, [], kinds, rfl, fun _ hk => by cases hk⟩
    | none =>
      rw [hf] at h
      obtain ⟨hfind, before, after, rfl, hnone⟩ := ih hn h
      have hne : ∀ k' ∈ before ++ kind :: after, k' ≠ k :=
        fun k' hk' heq => hk (heq ▸ hk')
      rw [Dict.find?_insert, if_neg (hne kind (by simp))] at hfind
      refine ⟨hfind, k :: before, after, rfl, fun k' hk' => ?_⟩
      rcases List.mem_cons.1 hk' with rfl | hk'
      · exact hf
      · have := hnone k' hk'
        rwa [Dict.find?_insert, if_neg (hne k' (by simp [hk']))] at this

end Place

/-- The places of kinds among some registrations: each place is that of a
registration with the kind, and every kind that one has, has a place. -/
structure IsIndex (rs : List Registration) (byKind : Dict Nat) :
    Prop where
  sound : ∀ kind i, byKind.find? kind = some i →
    ∃ r, rs[i]? = some r ∧ kind ∈ r.kinds
  complete : ∀ r ∈ rs, ∀ kind ∈ r.kinds, ∃ i, byKind.find? kind = some i

namespace IsIndex

variable {rs : List Registration} {byKind : Dict Nat}

theorem empty : IsIndex [] .empty :=
  ⟨fun _ _ h => (by cases h), fun _ h => (by cases h)⟩

/-- No place is past the registrations. -/
theorem lt (h : IsIndex rs byKind) {kind : String} {i : Nat}
    (hi : byKind.find? kind = some i) : i < rs.length := by
  obtain ⟨r, hr, -⟩ := h.sound kind i hi
  exact (List.getElem?_eq_some_iff.1 hr).1

theorem push (h : IsIndex rs byKind) (r : Registration) :
    IsIndex (rs ++ [r]) (Place.enter rs.length byKind r.kinds) := by
  refine ⟨fun kind i hi => ?_, fun r' hr' kind hk => ?_⟩
  · rw [Place.find?_enter] at hi
    split at hi
    · next hk =>
      obtain rfl := Option.some.inj hi
      exact ⟨r, List.getElem?_concat_length, hk⟩
    · obtain ⟨r', hr', hk⟩ := h.sound kind i hi
      exact ⟨r', List.getElem?_append_left (h.lt hi) ▸ hr', hk⟩
  · rw [Place.find?_enter]
    split
    · exact ⟨_, rfl⟩
    · next hno =>
      rcases List.mem_append.1 hr' with hr' | hr'
      · exact h.complete r' hr' kind hk
      · rw [List.mem_singleton.1 hr'] at hk
        exact absurd hk hno

end IsIndex

/-! ### The table -/

/-- The dispatch table. -/
structure HandlerTable where
  registrations : List Registration
  /-- The place of the owner of each kind. -/
  byKind : Dict Nat
  isIndex : IsIndex registrations byKind
deriving DecidableEq

/-- A kind that two handlers claim. -/
structure DuplicateKind where
  kind : String
  first : String
  second : String
deriving DecidableEq, Repr

/-- The text of a clash. -/
def DuplicateKind.message (e : DuplicateKind) : String :=
  "operation kind " ++ e.kind ++ " claimed by both " ++ e.first ++ " and "
    ++ e.second

theorem nodup_eraseDups {α : Type} [BEq α] [LawfulBEq α] (l : List α) :
    l.eraseDups.Nodup := by
  induction hn : l.length using Nat.strongRecOn generalizing l with
  | ind n ih =>
    cases l with
    | nil => exact List.nodup_nil
    | cons a l =>
      have hlt : (l.filter fun b => !b == a).length < n := by
        have := List.length_filter_le (fun b => !b == a) l
        rw [List.length_cons] at hn
        omega
      rw [List.eraseDups_cons, List.nodup_cons]
      refine ⟨fun hmem => ?_, ih _ hlt _ rfl⟩
      have hne := (List.mem_filter.1 (List.mem_eraseDups.1 hmem)).2
      simp at hne

namespace HandlerTable

/-- The table without handlers. -/
def empty : HandlerTable := ⟨[], .empty, .empty⟩

instance : Inhabited HandlerTable := ⟨empty⟩

/-- Whether the table has no handlers. -/
def isEmpty (t : HandlerTable) : Bool := t.registrations.isEmpty

/-- The number of handlers. -/
def size (t : HandlerTable) : Nat := t.registrations.length

/-- The handlers, in the order of their registration. -/
def handlers (t : HandlerTable) : List Handler :=
  t.registrations.map (·.handler)

/-- The handler that stands at a place. -/
def handlerAt (t : HandlerTable) (i : Nat)
    (h : i < t.registrations.length) : Handler :=
  t.registrations[i].handler

/-- The handler that owns a kind. -/
def handlerFor? (t : HandlerTable) (kind : String) : Option Handler :=
  match h : t.byKind.find? kind with
  | some i => some (t.handlerAt i (t.isIndex.lt h))
  | none => none

/-- The kinds, in the order of their registration. -/
def kindNames (t : HandlerTable) : List String :=
  t.registrations.flatMap (·.kinds)

/-- The kinds that have a place, in the order of their names. -/
def supportedKinds (t : HandlerTable) : List String := t.byKind.keys

/-- Adds a registration at the end. -/
def push (t : HandlerTable) (r : Registration) : HandlerTable :=
  ⟨t.registrations ++ [r], Place.enter t.size t.byKind r.kinds,
    t.isIndex.push r⟩

/-- The table of some registrations. -/
def ofRegistrations (rs : List Registration) : HandlerTable :=
  rs.foldl push .empty

/-- A candidate finds no place but those that the table has. -/
theorem lt_of_claim {t : HandlerTable} {kinds : List String}
    {e : String × Nat}
    (h : Place.claim t.size t.byKind kinds.eraseDups = .error e) :
    e.2 < t.registrations.length :=
  t.isIndex.lt (Place.claim_eq_error (nodup_eraseDups kinds) h).1

/-- Adds a candidate, unless one of its kinds has an owner. -/
def add (t : HandlerTable) (h : Handler) :
    Except DuplicateKind HandlerTable :=
  if h.kinds.eraseDups.isEmpty then .ok t
  else
    match hc : Place.claim t.size t.byKind h.kinds.eraseDups with
    | .error e =>
      .error ⟨e.1, (t.handlerAt e.2 (lt_of_claim hc)).name, h.name⟩
    | .ok byKind =>
      .ok ⟨t.registrations ++ [⟨h, h.kinds.eraseDups⟩], byKind,
        (Place.claim_eq_ok hc).1 ▸ t.isIndex.push ⟨h, h.kinds.eraseDups⟩⟩

/-- The table of some candidates. -/
def verify (candidates : List Handler) :
    Except DuplicateKind HandlerTable :=
  candidates.foldlM add empty

/-- Adds a registration if its handler passes a test. -/
def pushIf {σ : Type} (test : Handler → StateM σ Bool)
    (kept : HandlerTable) (r : Registration) : StateM σ HandlerTable := do
  return if ← test r.handler then kept.push r else kept

/-- Keeps the handlers that pass a test.  The test may remember what it
was asked before. -/
def retainWith {σ : Type} (t : HandlerTable)
    (test : Handler → StateM σ Bool) : StateM σ HandlerTable :=
  t.registrations.foldlM (pushIf test) empty

/-- Keeps the handlers that pass a test which remembers nothing. -/
def retain (t : HandlerTable) (keep : Handler → Bool) : HandlerTable :=
  ((t.retainWith fun h => (pure (keep h) : StateM Unit Bool)).run ()).1

/-- The text of a table: each handler's name with its kinds, all
quoted. -/
def render (t : HandlerTable) : String :=
  let entries := t.registrations.map fun r =>
    Quoted.quote r.handler.name ++ ": " ++ Quoted.quoteList r.kinds
  String.singleton (Char.ofNat 0x7b) ++ String.intercalate ", " entries
    ++ String.singleton (Char.ofNat 0x7d)

@[simp]
theorem registrations_push (t : HandlerTable) (r : Registration) :
    (t.push r).registrations = t.registrations ++ [r] := rfl

@[simp]
theorem ofRegistrations_append (rs : List Registration)
    (r : Registration) :
    ofRegistrations (rs ++ [r]) = (ofRegistrations rs).push r := by
  rw [ofRegistrations, List.foldl_append]
  rfl

@[simp]
theorem registrations_ofRegistrations (rs : List Registration) :
    (ofRegistrations rs).registrations = rs := by
  suffices H : ∀ t : HandlerTable,
      (rs.foldl push t).registrations = t.registrations ++ rs from H empty
  induction rs with
  | nil => exact fun t => (List.append_nil _).symm
  | cons r rs ih =>
    intro t
    rw [List.foldl_cons, ih, registrations_push, List.append_assoc]
    rfl

/-- A test is asked for the first handler and goes on with its state. -/
theorem run_foldlM_pushIf {σ : Type} (test : Handler → StateM σ Bool)
    (kept : HandlerTable) (r : Registration) (rs : List Registration)
    (s : σ) :
    ((r :: rs).foldlM (pushIf test) kept).run s
      = (rs.foldlM (pushIf test)
          (if ((test r.handler).run s).1 then kept.push r else kept)).run
        ((test r.handler).run s).2 := rfl

theorem retain_eq (t : HandlerTable) (keep : Handler → Bool) :
    t.retain keep
      = ofRegistrations (t.registrations.filter fun r => keep r.handler) := by
  rw [retain, retainWith, ofRegistrations]
  generalize empty = kept
  induction t.registrations generalizing kept with
  | nil => rfl
  | cons r rs ih =>
    have hrun : (pure (keep r.handler) : StateM Unit Bool).run ()
        = (keep r.handler, ()) := rfl
    rw [run_foldlM_pushIf, hrun, List.filter_cons]
    cases keep r.handler with
    | true => exact ih (kept.push r)
    | false => exact ih kept

theorem handlerFor?_eq_some_iff {t : HandlerTable} {kind : String}
    {h : Handler} : t.handlerFor? kind = some h
      ↔ ∃ i r, t.byKind.find? kind = some i
        ∧ t.registrations[i]? = some r ∧ r.handler = h := by
  rw [handlerFor?]
  split
  · next i hi =>
    have hlt := t.isIndex.lt hi
    simp [hi, handlerAt, List.getElem?_eq_getElem hlt]
  · next hnone => simp [hnone]

theorem handlerFor?_eq_some {t : HandlerTable} {kind : String}
    {h : Handler} (hf : t.handlerFor? kind = some h) :
    ∃ r ∈ t.registrations, r.handler = h ∧ kind ∈ r.kinds := by
  obtain ⟨i, r, hi, hr, rfl⟩ := handlerFor?_eq_some_iff.1 hf
  obtain ⟨r', hr', hk⟩ := t.isIndex.sound kind i hi
  obtain rfl := Option.some.inj (hr.symm.trans hr')
  exact ⟨r, List.mem_of_getElem? hr, rfl, hk⟩

end HandlerTable

end RemoteOps
