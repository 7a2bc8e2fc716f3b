/-
What a dispatch table is worth.

A table of candidates that share no kind has one owner for each kind, and
finds it where it stands, also after handlers were dropped.  Of
candidates that share a kind, the first that collides is named, with the
first of its kinds that is taken.

* `HandlerTable.Retained`: the tables that are left when handlers are
  dropped;
* `HandlerTable.IsDispatching`: every kind has one owner, who is found;
* `HandlerTable.Clash`: a candidate is the first to collide;
* `HandlerTable.dispatching_of_verify`: what becomes of candidates.
-/
import Mathlib.Data.List.Flatten
import RemoteOps.Proofs.HandlerTable

namespace RemoteOps.HandlerTable

variable {t t' : HandlerTable} {cs pre : List Handler} {h : Handler}
  {e : DuplicateKind}

/-! ### Tables that handlers were dropped from -/

/-- The tables that are left when tests are made of the handlers of a
table, one after the other.  A test may remember what it was asked
before. -/
inductive Retained (t : HandlerTable) : HandlerTable → Prop where
  | refl : Retained t t
  | keep {σ : Type} {t' : HandlerTable} (h : Retained t t')
    (test : Handler → StateM σ Bool) (s : σ) :
    Retained t ((t'.retainWith test).run s).1

/-- A test adds no registration and keeps their order. -/
lemma sublist_retainWith {σ : Type} (t : HandlerTable)
    (test : Handler → StateM σ Bool) (s : σ) :
    (((t.retainWith test).run s).1).registrations.Sublist
      t.registrations := by
  suffices H : ∀ (rs : List Registration) (kept : HandlerTable) (s : σ),
      ∃ rs', rs'.Sublist rs
        ∧ ((rs.foldlM (pushIf test) kept).run s).1.registrations
          = kept.registrations ++ rs' by
    obtain ⟨rs', hsub, heq⟩ := H t.registrations empty s
    rw [retainWith, heq]
    exact hsub
  intro rs
  induction rs with
  | nil => exact fun kept s => ⟨[], .refl _, (List.append_nil _).symm⟩
  | cons r rs ih =>
    intro kept s
    rw [run_foldlM_pushIf]
    cases ((test r.handler).run s).1 with
    | true =>
      obtain ⟨rs', hsub, heq⟩ := ih (kept.push r) ((test r.handler).run s).2
      refine ⟨r :: rs', hsub.cons_cons r, ?_⟩
      rw [if_pos rfl, heq, registrations_push, List.append_assoc]
      rfl
    | false =>
      obtain ⟨rs', hsub, heq⟩ := ih kept ((test r.handler).run s).2
      exact ⟨rs', hsub.cons r, heq⟩

lemma Retained.sublist (h : Retained t t') :
    t'.registrations.Sublist t.registrations := by
  induction h with
  | refl => exact .refl _
  | keep _ test s ih => exact (sublist_retainWith _ test s).trans ih

/-! ### One owner for each kind -/

/-- Every kind has one owner, who is found where it stands. -/
structure IsDispatching (t : HandlerTable) : Prop where
  /-- A handler owns the kinds that it declares, at least one and each
  once. -/
  kinds : ∀ r ∈ t.registrations, r.kinds ≠ [] ∧ r.kinds.Nodup
    ∧ ∀ kind, kind ∈ r.kinds ↔ kind ∈ r.handler.kinds
  /-- Different handlers own different kinds. -/
  disjoint : t.registrations.Pairwise fun r r' => r.kinds.Disjoint r'.kinds
  /-- The place of a kind is where its owner stands. -/
  place : ∀ kind i, t.byKind.find? kind = some i
    ↔ ∃ r, t.registrations[i]? = some r ∧ kind ∈ r.kinds
  /-- No place is past the handlers. -/
  inRange : ∀ kind i, t.byKind.find? kind = some i → i < t.handlers.length
  owner : ∀ kind h, t.handlerFor? kind = some h
    ↔ h ∈ t.handlers ∧ kind ∈ h.kinds
  supported : ∀ kind, kind ∈ t.supportedKinds ↔ kind ∈ t.kindNames
  nodup : t.kindNames.Nodup

/-- Of lists that share nothing, only one has an element. -/
lemma eq_of_mem_of_pairwise_disjoint {rs : List Registration}
    (h : rs.Pairwise fun r r' => r.kinds.Disjoint r'.kinds) {i j : Nat}
    {r r' : Registration} {kind : String} (hi : rs[i]? = some r)
    (hj : rs[j]? = some r') (hr : kind ∈ r.kinds) (hr' : kind ∈ r'.kinds) :
    i = j := by
  obtain ⟨hilt, rfl⟩ := List.getElem?_eq_some_iff.1 hi
  obtain ⟨hjlt, rfl⟩ := List.getElem?_eq_some_iff.1 hj
  rw [List.pairwise_iff_getElem] at h
  rcases Nat.lt_trichotomy i j with hlt | heq | hgt
  · exact absurd hr' (h i j hilt hjlt hlt hr)
  · exact heq
  · exact absurd hr (h j i hjlt hilt hgt hr')

/-- Handlers that own their declared kinds make such a table, if no kind
is owned twice. -/
lemma isDispatching_of_nodup (hnodup : t.kindNames.Nodup)
    (hkinds : ∀ r ∈ t.registrations, ∃ h : Handler,
      h.kinds ≠ [] ∧ r = registration h) : IsDispatching t := by
  have hown : ∀ r ∈ t.registrations, r.kinds ≠ [] ∧ r.kinds.Nodup
      ∧ ∀ kind, kind ∈ r.kinds ↔ kind ∈ r.handler.kinds := by
    intro r hr
    obtain ⟨h, hne, rfl⟩ := hkinds r hr
    refine ⟨?_, nodup_eraseDups h.kinds, fun kind => List.mem_eraseDups⟩
    rwa [registration, ne_eq, ← List.isEmpty_iff, isEmpty_eraseDups,
      List.isEmpty_iff]
  have hdis : t.registrations.Pairwise
      fun r r' => r.kinds.Disjoint r'.kinds := (List.nodup_flatMap.1 hnodup).2
  have hplace : ∀ kind i, t.byKind.find? kind = some i
      ↔ ∃ r, t.registrations[i]? = some r ∧ kind ∈ r.kinds := by
    refine fun kind i => ⟨t.isIndex.sound kind i, ?_⟩
    rintro ⟨r, hr, hk⟩
    obtain ⟨j, hj⟩ := t.isIndex.complete r (List.mem_of_getElem? hr) kind hk
    obtain ⟨r', hr', hk'⟩ := t.isIndex.sound kind j hj
    rwa [eq_of_mem_of_pairwise_disjoint hdis hr hr' hk hk']
  refine ⟨hown, hdis, hplace, fun kind i hi => ?_, fun kind h => ?_,
    fun kind => mem_supportedKinds, hnodup⟩
  · rw [handlers, List.length_map]
    exact t.isIndex.lt hi
  · rw [handlers, List.mem_map]
    constructor
    · intro hf
      obtain ⟨r, hr, rfl, hk⟩ := handlerFor?_eq_some hf
      exact ⟨⟨r, hr, rfl⟩, ((hown r hr).2.2 kind).1 hk⟩
    · rintro ⟨⟨r, hr, rfl⟩, hk⟩
      obtain ⟨i, hi⟩ := List.mem_iff_getElem?.1 hr
      exact handlerFor?_eq_some_iff.2
        ⟨i, r, (hplace kind i).2 ⟨r, hi, ((hown r hr).2.2 kind).2 hk⟩, hi,
          rfl⟩

/-- Dropping handlers from the table of some candidates leaves one owner
for each kind. -/
lemma Retained.isDispatching (hv : verify cs = .ok t)
    (h : Retained t t') : IsDispatching t' := by
  obtain ⟨hreg, hnodup⟩ := verify_eq_ok hv
  refine isDispatching_of_nodup (hnodup.sublist (h.sublist.flatMap _))
    fun r hr => ?_
  have hmem : r ∈ registrationsOf cs := hreg ▸ h.sublist.subset hr
  obtain ⟨c, hc, rfl⟩ := List.mem_map.1 hmem
  exact ⟨c, by simpa using (List.mem_filter.1 hc).2, rfl⟩

/-- The handlers of the table of some candidates are those that declare
kinds. -/
lemma handlers_of_verify (hv : verify cs = .ok t) :
    t.handlers = cs.filter fun h => !h.kinds.isEmpty := by
  rw [handlers, (verify_eq_ok hv).1, registrationsOf, List.map_map]
  exact List.map_id' _

/-! ### Candidates that collide -/

/-- A candidate collides with one of those before it, which share no
kind. -/
structure Clash (e : DuplicateKind) (pre : List Handler)
    (h owner : Handler) : Prop where
  disjoint : pre.Pairwise fun a b => a.kinds.Disjoint b.kinds
  /-- The kind is the first, as the candidate declares them, that one of
  those before it declares too. -/
  kind : h.kinds.find? (fun k => k ∈ pre.flatMap (·.kinds)) = some e.kind
  sole : pre.filter (e.kind ∈ ·.kinds) = [owner]
  names : e.first = owner.name ∧ e.second = h.name
  /-- The place that is found is where the owner stands. -/
  place : ∃ t i r, verify pre = .ok t
    ∧ Place.claim t.size t.byKind h.kinds.eraseDups = .error (e.kind, i)
    ∧ t.registrations[i]? = some r ∧ r.handler = owner

/-- Candidates are refused with the first that is not added. -/
lemma exists_of_foldlM_add_eq_error (h : cs.foldlM add t = .error e) :
    ∃ pre c post t', cs = pre ++ c :: post
      ∧ pre.foldlM add t = .ok t' ∧ t'.add c = .error e := by
  induction cs generalizing t with
  | nil => cases h
  | cons c cs ih =>
    rw [List.foldlM_cons] at h
    cases hadd : t.add c with
    | error e' =>
      rw [hadd] at h
      cases h
      exact ⟨[], c, cs, t, rfl, rfl, hadd⟩
    | ok t₁ =>
      rw [hadd] at h
      obtain ⟨pre, c', post, t', rfl, hpre, herr⟩ := ih h
      refine ⟨c :: pre, c', post, t', rfl, ?_, herr⟩
      rw [List.foldlM_cons, hadd]
      exact hpre

lemma mem_kindNames_of_verify (hv : verify cs = .ok t) {kind : String} :
    kind ∈ t.kindNames ↔ kind ∈ cs.flatMap (·.kinds) := by
  rw [kindNames, (verify_eq_ok hv).1, flatMap_registrationsOf]
  simp

lemma exists_clash (he : verify cs = .error e) :
    ∃ pre h post owner, cs = pre ++ h :: post ∧ Clash e pre h owner := by
  obtain ⟨pre, h, post, t, rfl, hv, herr⟩ := exists_of_foldlM_add_eq_error he
  have hcases := add_cases t h
  rw [herr] at hcases
  cases hcases with
  | @clash kind i r hfirst hc hr hk =>
    have hkind : h.kinds.find? (fun k => k ∈ pre.flatMap (·.kinds))
        = some kind := by
      simpa only [mem_kindNames_of_verify hv] using hfirst
    have hmem : r ∈ registrationsOf pre :=
      (verify_eq_ok hv).1 ▸ List.mem_of_getElem? hr
    obtain ⟨c, hc', rfl⟩ := List.mem_map.1 hmem
    refine ⟨pre, h, post, c, rfl, {
      disjoint := exists_verify_eq_ok_iff.1 ⟨t, hv⟩
      kind := hkind
      sole := filter_eq_singleton hv (List.mem_filter.1 hc').1
        (List.mem_eraseDups.1 hk)
      names := ⟨rfl, rfl⟩
      place := ⟨t, i, _, hv, hc, hr, rfl⟩ }⟩

/-! ### The order of the candidates -/

lemma exists_verify_eq_ok_of_perm {cs' : List Handler} (hp : cs.Perm cs') :
    (∃ t, verify cs = .ok t) ↔ ∃ t', verify cs' = .ok t' := by
  rw [exists_verify_eq_ok_iff, exists_verify_eq_ok_iff]
  exact hp.pairwise_iff List.disjoint_symm

lemma handlerFor?_of_perm {cs' : List Handler} (hp : cs.Perm cs')
    (hv : verify cs = .ok t) (hv' : verify cs' = .ok t') (kind : String) :
    t.handlerFor? kind = t'.handlerFor? kind := by
  refine Option.ext fun h => ?_
  rw [(Retained.isDispatching hv .refl).owner,
    (Retained.isDispatching hv' .refl).owner, handlers_of_verify hv,
    handlers_of_verify hv', (hp.filter _).mem_iff]

/-- Candidates have a table exactly if no two of them declare a common
kind.  Its handlers are those that declare kinds, and each kind has one
owner, also after handlers were dropped.  Otherwise the first candidate
that collides is refused.  The order of the candidates matters to neither
the success nor the owners. -/
theorem dispatching_of_verify (cs : List Handler) :
    ((∃ t, verify cs = .ok t)
        ↔ cs.Pairwise fun a b => a.kinds.Disjoint b.kinds)
      ∧ (∀ t, verify cs = .ok t →
        t.handlers = (cs.filter fun h => !h.kinds.isEmpty)
          ∧ ∀ t', Retained t t' →
            t'.handlers.Sublist t.handlers ∧ IsDispatching t')
      ∧ (∀ e, verify cs = .error e → ∃ pre h post owner,
        cs = pre ++ h :: post ∧ Clash e pre h owner)
      ∧ ∀ cs', cs.Perm cs' →
        ((∃ t, verify cs = .ok t) ↔ ∃ t', verify cs' = .ok t')
          ∧ ∀ t t', verify cs = .ok t → verify cs' = .ok t' →
            ∀ kind, t.handlerFor? kind = t'.handlerFor? kind := by
  refine ⟨exists_verify_eq_ok_iff, fun t hv => ?_, fun e he => ?_,
    fun cs' hp => ?_⟩
  · refine ⟨handlers_of_verify hv, fun t' hr => ?_⟩
    exact ⟨hr.sublist.map _, hr.isDispatching hv⟩
  · exact exists_clash he
  · refine ⟨exists_verify_eq_ok_of_perm hp, fun t t' hv hv' kind => ?_⟩
    exact handlerFor?_of_perm hp hv hv' kind

end RemoteOps.HandlerTable
