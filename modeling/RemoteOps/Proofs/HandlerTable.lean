/-
Which kinds a dispatch table supports, and who owns them.

* `HandlerTable.handlerFor?_isSome_iff`: a kind has an owner exactly if
  it is supported;
* `HandlerTable.add_cases`: what comes of a candidate;
* `HandlerTable.verify_eq_ok`: the table of some candidates;
* `HandlerTable.exists_verify_eq_ok_iff`: candidates have a table exactly
  if no two of them declare a common kind;
* `HandlerTable.filter_eq_singleton`: the owner of a kind is the only
  candidate that declares it.
-/
import Mathlib.Data.List.Induction
import Mathlib.Data.List.Nodup
import RemoteOps.HandlerTable

namespace RemoteOps

namespace HandlerTable

lemma mem_kindNames {t : HandlerTable} {kind : String} :
    kind ∈ t.kindNames ↔ ∃ r ∈ t.registrations, kind ∈ r.kinds := by
  simp [kindNames]

/-- A kind has a place exactly if it is among those of the table. -/
lemma exists_place_iff {t : HandlerTable} {kind : String} :
    (∃ i, t.byKind.find? kind = some i) ↔ kind ∈ t.kindNames := by
  rw [mem_kindNames]
  constructor
  · rintro ⟨i, hi⟩
    obtain ⟨r, hr, hk⟩ := t.isIndex.sound kind i hi
    exact ⟨r, List.mem_of_getElem? hr, hk⟩
  · rintro ⟨r, hr, hk⟩
    exact t.isIndex.complete r hr kind hk

lemma find?_byKind_eq_none {t : HandlerTable} {kind : String} :
    t.byKind.find? kind = none ↔ kind ∉ t.kindNames := by
  rw [← exists_place_iff, Option.eq_none_iff_forall_ne_some, not_exists]

lemma mem_supportedKinds {t : HandlerTable} {kind : String} :
    kind ∈ t.supportedKinds ↔ kind ∈ t.kindNames := by
  rw [supportedKinds, ← Dict.contains_eq_true_iff, Dict.contains,
    Option.isSome_iff_exists, exists_place_iff]

/-- A kind has an owner exactly if it is supported. -/
lemma handlerFor?_isSome_iff {t : HandlerTable} {kind : String} :
    (t.handlerFor? kind).isSome = true ↔ kind ∈ t.supportedKinds := by
  rw [mem_supportedKinds, ← exists_place_iff, Option.isSome_iff_exists]
  constructor
  · rintro ⟨h, hf⟩
    obtain ⟨i, -, hi, -⟩ := handlerFor?_eq_some_iff.1 hf
    exact ⟨i, hi⟩
  · rintro ⟨i, hi⟩
    have hlt := t.isIndex.lt hi
    exact ⟨_, handlerFor?_eq_some_iff.2
      ⟨i, _, hi, List.getElem?_eq_getElem hlt, rfl⟩⟩

/-- A supported kind has an owner. -/
lemma exists_handlerFor? {t : HandlerTable} {kind : String}
    (h : kind ∈ t.supportedKinds) : ∃ owner, t.handlerFor? kind = some owner :=
  Option.isSome_iff_exists.1 (handlerFor?_isSome_iff.2 h)

/-! ### Verified tables -/

/-- The registration of a handler. -/
def registration (h : Handler) : Registration := ⟨h, h.kinds.eraseDups⟩

/-- The registrations of some candidates; those without kinds have
none. -/
def registrationsOf (cs : List Handler) : List Registration :=
  (cs.filter fun h => !h.kinds.isEmpty).map registration

lemma isEmpty_eraseDups (l : List String) :
    l.eraseDups.isEmpty = l.isEmpty := by
  cases l with
  | nil => rfl
  | cons a l => rw [List.eraseDups_cons]; rfl

/-- The first of some values that passes a test is no repetition. -/
lemma find?_eraseDups {α : Type} [BEq α] [LawfulBEq α] (p : α → Bool)
    (l : List α) : l.eraseDups.find? p = l.find? p := by
  induction hn : l.length using Nat.strongRecOn generalizing l with
  | ind n ih =>
    cases l with
    | nil => rfl
    | cons a l =>
      have hlt : (l.filter fun b => !b == a).length < n := by
        have := List.length_filter_le (fun b => !b == a) l
        rw [List.length_cons] at hn
        omega
      rw [List.eraseDups_cons, List.find?_cons, List.find?_cons,
        ih _ hlt _ rfl, List.find?_filter]
      cases ha : p a with
      | true => rfl
      | false =>
        refine congrArg (List.find? · l) (funext fun b => ?_)
        by_cases hb : b = a <;> simp [hb, ha]

/-- What comes of a candidate: it is dropped without kinds, it is added if
none of its kinds has an owner, and it is refused with the first of its
kinds that has one. -/
inductive Added (t : HandlerTable) (h : Handler) :
    Except DuplicateKind HandlerTable → Prop where
  | dropped (hk : h.kinds = []) : Added t h (.ok t)
  | pushed (hk : h.kinds ≠ []) (hnew : h.kinds.Disjoint t.kindNames) :
    Added t h (.ok (t.push (registration h)))
  | clash {kind : String} {place : Nat} {r : Registration}
    (hfirst : h.kinds.find? (· ∈ t.kindNames) = some kind)
    (hc : Place.claim t.size t.byKind h.kinds.eraseDups
      = .error (kind, place))
    (hr : t.registrations[place]? = some r) (hk : kind ∈ r.kinds) :
    Added t h (.error ⟨kind, r.handler.name, h.name⟩)

lemma add_cases (t : HandlerTable) (h : Handler) : Added t h (t.add h) := by
  have hnil : h.kinds.eraseDups.isEmpty = true ↔ h.kinds = [] := by
    rw [isEmpty_eraseDups, List.isEmpty_iff]
  rw [add]
  split
  · next he => exact .dropped (hnil.1 he)
  · next he =>
    split
    · next e hc =>
      obtain ⟨hplace, before, after, hkinds, hbefore⟩ :=
        Place.claim_eq_error (nodup_eraseDups _) hc
      obtain ⟨r, hr, hk⟩ := t.isIndex.sound _ _ hplace
      have hat : t.handlerAt e.2 (lt_of_claim hc) = r.handler :=
        congrArg Registration.handler (List.getElem?_eq_some_iff.1 hr).2
      have hown : e.1 ∈ t.kindNames := exists_place_iff.1 ⟨_, hplace⟩
      rw [hat]
      refine .clash ?_ hc hr hk
      rw [← find?_eraseDups, hkinds, List.find?_append,
        List.find?_eq_none.2 fun k hk => by
          simpa using find?_byKind_eq_none.1 (hbefore k hk)]
      simp [hown]
    · next byKind hc =>
      obtain ⟨rfl, hnew⟩ := Place.claim_eq_ok hc
      refine .pushed (mt hnil.2 he) fun k hk hmem => ?_
      exact find?_byKind_eq_none.1
        (hnew (nodup_eraseDups _) k (List.mem_eraseDups.2 hk)) hmem

/-- A handler is added to a table that owns none of its kinds. -/
lemma add_eq_ok {t t' : HandlerTable} {h : Handler}
    (hadd : t.add h = .ok t') :
    t'.registrations = t.registrations ++ registrationsOf [h]
      ∧ (t.kindNames.Nodup → t'.kindNames.Nodup) := by
  have hcases := add_cases t h
  rw [hadd] at hcases
  cases hcases with
  | dropped hk => simp [registrationsOf, hk]
  | pushed hk hnew =>
    refine ⟨by simp [registrationsOf, hk], fun hd => ?_⟩
    rw [kindNames, registrations_push, List.flatMap_append,
      List.nodup_append]
    refine ⟨hd, by simpa [registration] using nodup_eraseDups h.kinds, ?_⟩
    rintro k hk k' hk' rfl
    have hmem : k ∈ h.kinds := by simpa [registration] using hk'
    exact hnew hmem hk

lemma foldlM_add_eq_ok {cs : List Handler} {t t' : HandlerTable}
    (h : cs.foldlM add t = .ok t') :
    t'.registrations = t.registrations ++ registrationsOf cs
      ∧ (t.kindNames.Nodup → t'.kindNames.Nodup) := by
  induction cs generalizing t with
  | nil =>
    obtain rfl : t = t' := Except.ok.inj h
    exact ⟨(List.append_nil _).symm, id⟩
  | cons c cs ih =>
    rw [List.foldlM_cons] at h
    cases hadd : t.add c with
    | error e =>
      rw [hadd] at h
      cases h
    | ok t₁ =>
      rw [hadd] at h
      obtain ⟨hreg, hnodup⟩ := add_eq_ok hadd
      obtain ⟨hreg', hnodup'⟩ := ih h
      refine ⟨?_, hnodup' ∘ hnodup⟩
      rw [hreg', hreg, List.append_assoc, registrationsOf, registrationsOf,
        registrationsOf, ← List.map_append, ← List.filter_append]
      rfl

/-- The table of some candidates: those that declare kinds, each with its
kinds, and no kind twice. -/
theorem verify_eq_ok {cs : List Handler} {t : HandlerTable}
    (h : verify cs = .ok t) :
    t.registrations = registrationsOf cs ∧ t.kindNames.Nodup := by
  obtain ⟨hreg, hnodup⟩ := foldlM_add_eq_ok h
  exact ⟨hreg, hnodup List.nodup_nil⟩

/-- The kinds that some candidates declare. -/
lemma flatMap_registrationsOf (cs : List Handler) :
    (registrationsOf cs).flatMap (·.kinds)
      = cs.flatMap (·.kinds.eraseDups) := by
  induction cs with
  | nil => rfl
  | cons c cs ih =>
    rw [List.flatMap_cons, ← ih, registrationsOf, List.filter_cons]
    cases hc : c.kinds.isEmpty with
    | true => simp [registrationsOf, List.isEmpty_iff.1 hc]
    | false => simp [registrationsOf, registration]

/-- A handler is refused exactly if the table owns one of its kinds. -/
lemma exists_add_eq_ok_iff {t : HandlerTable} {h : Handler} :
    (∃ t', t.add h = .ok t') ↔ h.kinds.Disjoint t.kindNames := by
  have hcases := add_cases t h
  cases hadd : t.add h with
  | ok t' =>
    rw [hadd] at hcases
    cases hcases with
    | dropped hk => simp [hk]
    | pushed hk hnew => simp [hnew]
  | error e =>
    rw [hadd] at hcases
    cases hcases with
    | @clash kind place r hfirst =>
      have hk : kind ∈ h.kinds := List.mem_of_find?_eq_some hfirst
      have hown : kind ∈ t.kindNames := by
        simpa using List.find?_some hfirst
      simp only [reduceCtorEq, exists_false, false_iff]
      exact fun hdis => hdis hk hown

lemma exists_foldlM_add_eq_ok_iff {cs : List Handler} {t : HandlerTable} :
    (∃ t', cs.foldlM add t = .ok t')
      ↔ (∀ c ∈ cs, c.kinds.Disjoint t.kindNames)
        ∧ cs.Pairwise fun a b => a.kinds.Disjoint b.kinds := by
  induction cs generalizing t with
  | nil => simp [List.foldlM, pure, Except.pure]
  | cons c cs ih =>
    rw [List.foldlM_cons, List.forall_mem_cons, List.pairwise_cons,
      ← exists_add_eq_ok_iff]
    cases hadd : t.add c with
    | error e => simp [bind, Except.bind]
    | ok t₁ =>
      -- the kinds of the candidate join those of the table
      have hnames : t₁.kindNames = t.kindNames ++ c.kinds.eraseDups := by
        rw [kindNames, (add_eq_ok hadd).1, List.flatMap_append,
          flatMap_registrationsOf, kindNames]
        simp
      have hdis : ∀ d : Handler, d.kinds.Disjoint t₁.kindNames
          ↔ d.kinds.Disjoint t.kindNames ∧ c.kinds.Disjoint d.kinds := by
        intro d
        rw [hnames, List.disjoint_append_right,
          @List.disjoint_comm _ c.kinds]
        simp [List.Disjoint]
      show (∃ t', cs.foldlM add t₁ = .ok t') ↔ _
      rw [ih]
      simp only [hdis, forall_and]
      constructor
      · rintro ⟨⟨hold, hnew⟩, hcs⟩
        exact ⟨⟨⟨t₁, rfl⟩, hold⟩, hnew, hcs⟩
      · rintro ⟨⟨-, hold⟩, hnew, hcs⟩
        exact ⟨⟨hold, hnew⟩, hcs⟩

/-- Candidates have a table exactly if no two of them declare a common
kind. -/
theorem exists_verify_eq_ok_iff {cs : List Handler} :
    (∃ t, verify cs = .ok t)
      ↔ cs.Pairwise fun a b => a.kinds.Disjoint b.kinds := by
  rw [verify, exists_foldlM_add_eq_ok_iff]
  refine and_iff_right fun c _ => ?_
  exact List.disjoint_nil_right _

/-- Of lists that share nothing, at most one has an element. -/
lemma length_filter_le_one {α β : Type} [DecidableEq β] {f : α → List β}
    {l : List α} (h : (l.flatMap f).Nodup) (b : β) :
    (l.filter (b ∈ f ·)).length ≤ 1 := by
  induction l with
  | nil => simp
  | cons a l ih =>
    rw [List.flatMap_cons, List.nodup_append] at h
    obtain ⟨-, hl, hdis⟩ := h
    by_cases hb : b ∈ f a
    · have hnil : l.filter (b ∈ f ·) = [] := by
        refine List.filter_eq_nil_iff.2 fun a' ha' hmem => ?_
        exact hdis b hb b (List.mem_flatMap.2 ⟨a', ha', by simpa using hmem⟩)
          rfl
      simp [hb, hnil]
    · simpa [hb] using ih hl

/-- The owner of a kind is the only candidate that declares it. -/
theorem filter_eq_singleton {cs : List Handler} {t : HandlerTable}
    (hv : verify cs = .ok t) {h : Handler} (hh : h ∈ cs) {kind : String}
    (hk : kind ∈ h.kinds) : cs.filter (kind ∈ ·.kinds) = [h] := by
  obtain ⟨hreg, hnodup⟩ := verify_eq_ok hv
  rw [kindNames, hreg, flatMap_registrationsOf] at hnodup
  have hle := length_filter_le_one hnodup kind
  simp only [List.mem_eraseDups] at hle
  have hmem : h ∈ cs.filter (kind ∈ ·.kinds) :=
    List.mem_filter.2 ⟨hh, decide_eq_true hk⟩
  cases hf : cs.filter (kind ∈ ·.kinds) with
  | nil =>
    rw [hf] at hmem
    cases hmem
  | cons a l =>
    rw [hf, List.length_cons] at hle
    have hl : l = [] := List.eq_nil_of_length_eq_zero (by omega)
    rw [hf, hl] at hmem
    rw [hl, List.mem_singleton.1 hmem]

/-- The registrations of the handlers that are kept. -/
lemma registrations_retain {cs : List Handler} {t : HandlerTable}
    (hv : verify cs = .ok t) (keep : Handler → Bool) :
    (t.retain keep).registrations = registrationsOf (cs.filter keep) := by
  rw [retain_eq, registrations_ofRegistrations, (verify_eq_ok hv).1,
    registrationsOf, registrationsOf, List.filter_map, List.filter_filter,
    List.filter_filter]
  simp only [Function.comp_def, registration, Bool.and_comm]

/-- The kinds of the handlers that are kept. -/
lemma kindNames_retain {cs : List Handler} {t : HandlerTable}
    (hv : verify cs = .ok t) (keep : Handler → Bool) :
    (t.retain keep).kindNames
      = (cs.filter keep).flatMap (·.kinds.eraseDups) := by
  rw [kindNames, registrations_retain hv, flatMap_registrationsOf]

end HandlerTable

end RemoteOps
