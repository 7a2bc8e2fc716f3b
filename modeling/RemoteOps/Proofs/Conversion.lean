/-
Which operations are converted, and to what.

An operation is converted exactly if one of its fragments, and no other,
has the name of a supported kind, and if the fragment of a software
update is a list of entries.  An entry comes as an object or as an array
of its fields.  Fragments of other names and kinds that the operation does
not carry make no difference.

* `SoftwareEntry.Written`: the values that are read as an entry;
* `SoftwareEntry.ofJson_eq_ok_iff`: exactly these are read, as this entry;
* `Matching.matchKind?_eq_some_iff_isOnly`: the kind that matches;
* `TypedOperation.ofOperation_withFragment`: another fragment travels
  along;
* `Matching.converts`: what is converted, and to what.
-/
import Mathlib.Data.List.Perm.Basic
import RemoteOps.Operation.Matching
import RemoteOps.Proofs.TurningBack

namespace RemoteOps

namespace Json

/-! ### Records that come as arrays -/

variable {α : Type} {decode : Json → Except DecodeError α} {x default : α}
  {index length : Nat} {expected : String} {l rest : List Json}

lemma exists_of_decodeNext
    (h : decodeNext decode index expected l = .ok (x, rest)) :
    ∃ a, l = a :: rest ∧ decode a = .ok x := by
  cases l with
  | nil => cases h
  | cons a l =>
    obtain ⟨y, hy, h⟩ := exists_of_bind_eq_ok h
    obtain ⟨rfl, rfl⟩ := Prod.mk.inj (Except.ok.inj h)
    exact ⟨a, rfl, hy⟩

lemma exists_of_decodeNextOr
    (h : decodeNextOr decode default l = .ok (x, rest)) :
    (l = [] ∧ rest = [] ∧ x = default)
      ∨ ∃ a, l = a :: rest ∧ decode a = .ok x := by
  cases l with
  | nil =>
    obtain ⟨rfl, rfl⟩ := Prod.mk.inj (Except.ok.inj h)
    exact .inl ⟨rfl, rfl, rfl⟩
  | cons a l =>
    obtain ⟨y, hy, h⟩ := exists_of_bind_eq_ok h
    obtain ⟨rfl, rfl⟩ := Prod.mk.inj (Except.ok.inj h)
    exact .inr ⟨a, rfl, hy⟩

lemma eq_nil_of_decodeDone {u : Unit} (h : decodeDone length rest = .ok u) :
    rest = [] := by
  rw [decodeDone] at h
  split at h
  · next hr => exact List.isEmpty_iff.1 hr
  · cases h

end Json

namespace SoftwareEntry

/-! ### Reading an entry -/

/-- A location as it is written: a text, or null if there is none. -/
inductive LocationWritten : Json → Option String → Prop where
  | null : LocationWritten .null none
  | text (s : String) : LocationWritten (.string s) (some s)

/-- An entry as it is written: an object, whose other members do not
matter, or an array of the fields. -/
inductive Written : Json → SoftwareEntry → Prop where
  | object {ms : List (String × Json)} {e : SoftwareEntry}
    (name : Entries.find? "name" ms = some (.string e.name))
    (version : Entries.find? "version" ms = some (.string e.version))
    (url : (Entries.find? "url" ms = none ∧ e.url = none)
      ∨ ∃ u, Entries.find? "url" ms = some u ∧ LocationWritten u e.url) :
    Written (.object ms) e
  | two (name version : String) :
    Written (.array [.string name, .string version]) ⟨name, version, none⟩
  | three (name version : String) {u : Json} {url : Option String}
    (hu : LocationWritten u url) :
    Written (.array [.string name, .string version, u]) ⟨name, version, url⟩

variable {ms : List (String × Json)} {f f' : Fields} {e : SoftwareEntry}
  {a : Json} {l : List Json}

lemma decodeOption_eq_ok_iff {u : Option String} :
    a.decodeOption = .ok u ↔ LocationWritten a u := by
  constructor
  · intro h
    cases a with
    | null =>
      obtain rfl : none = u := Except.ok.inj h
      exact .null
    | string s =>
      obtain rfl : some s = u := Except.ok.inj h
      exact .text s
    | _ => cases h
  · rintro (_ | _) <;> rfl

/-- A member that is no field of an entry, or can be read as its own. -/
structure Fields.Readable (m : String × Json) : Prop where
  name : m.1 = "name" → ∃ s, m.2 = .string s
  version : m.1 = "version" → ∃ s, m.2 = .string s
  url : m.1 = "url" → ∃ u, LocationWritten m.2 u

lemma Fields.exists_read {m : String × Json} (hm : Readable m)
    (f : Fields) : ∃ f', f.read m = .ok f' := by
  obtain ⟨k, a⟩ := m
  rw [read]
  split
  · next hk =>
    obtain ⟨s, rfl⟩ : ∃ s, a = .string s := hm.name hk
    exact ⟨_, rfl⟩
  · next hk =>
    obtain ⟨s, rfl⟩ : ∃ s, a = .string s := hm.version hk
    exact ⟨_, rfl⟩
  · next hk =>
    obtain ⟨u, hu⟩ := hm.url hk
    rw [show a.decodeOption = .ok u from decodeOption_eq_ok_iff.2 hu]
    exact ⟨_, rfl⟩
  · exact ⟨f, rfl⟩

/-- Members that can all be read, whatever was read before, are read one
after the other. -/
lemma exists_foldlM {F : Type}
    {read : F → String × Json → Except DecodeError F}
    (h : ∀ m ∈ ms, ∀ f, ∃ f', read f m = .ok f') (f : F) :
    ∃ f', ms.foldlM read f = .ok f' := by
  induction ms generalizing f with
  | nil => exact ⟨f, rfl⟩
  | cons m ms ih =>
    obtain ⟨hm, hms⟩ := List.forall_mem_cons.1 h
    obtain ⟨f₁, h₁⟩ := hm f
    obtain ⟨f', h'⟩ := ih hms f₁
    refine ⟨f', ?_⟩
    rw [List.foldlM_cons, h₁]
    exact h'

/-- The members of an entry can all be read, since no key is there
twice. -/
lemma readable_of_written (hs : Entries.Sorted ms)
    (hw : Written (.object ms) e) : ∀ m ∈ ms, Fields.Readable m := by
  cases hw with
  | object name version url =>
    rintro ⟨k, a⟩ hm
    have hf : Entries.find? k ms = some a :=
      (Entries.find?_eq_some_iff hs).2 hm
    refine ⟨?_, ?_, ?_⟩
    · rintro rfl
      exact ⟨e.name, Option.some.inj (hf.symm.trans name)⟩
    · rintro rfl
      exact ⟨e.version, Option.some.inj (hf.symm.trans version)⟩
    · rintro rfl
      obtain ⟨hnone, -⟩ | ⟨u, hu, hw⟩ := url
      · cases hf.symm.trans hnone
      · obtain rfl : a = u := Option.some.inj (hf.symm.trans hu)
        exact ⟨e.url, hw⟩

lemma Took.eq_some {α : Type} {decode : Json → Except DecodeError α}
    {k : String} {old new : Option α} {x : α}
    (h : Took decode (Entries.find? k ms) old new)
    (hf : Entries.find? k ms = some a) (hd : decode a = .ok x) :
    new = some x := by
  rw [hf] at h
  obtain ⟨x', hx', rfl⟩ := h
  rw [Except.ok.inj (hx'.symm.trans hd)]

lemma Took.getD_eq {α : Type} {decode : Json → Except DecodeError α}
    {k : String} {new : Option α} {default x : α}
    (h : Took decode (Entries.find? k ms) none new)
    (hx : (Entries.find? k ms = none ∧ x = default)
      ∨ ∃ a, Entries.find? k ms = some a ∧ decode a = .ok x) :
    new.getD default = x := by
  obtain ⟨hnone, rfl⟩ | ⟨a, hf, hd⟩ := hx
  · rw [hnone] at h
    rw [show new = none from h]
    rfl
  · rw [h.eq_some hf hd]
    rfl

lemma ofJson_object_of_written (hs : Entries.Sorted ms)
    (hw : Written (.object ms) e) : ofJson (.object ms) = .ok e := by
  obtain ⟨f, hf⟩ := exists_foldlM
    (fun m hm => Fields.exists_read (readable_of_written hs hw m hm)) {}
  have hreads := Fields.reads_of_foldlM hs hf
  cases hw with
  | object name version url =>
    have hname : f.name = some e.name := hreads.name.eq_some name rfl
    have hversion : f.version = some e.version :=
      hreads.version.eq_some version rfl
    have hurl : f.url.getD none = e.url :=
      hreads.url.getD_eq (url.imp_right
        (Exists.imp fun _ => And.imp_right decodeOption_eq_ok_iff.2))
    rw [ofJson, hf]
    simp only [ok_bind, hname, hversion, Json.require, hurl]
    rfl

lemma written_of_ofJson_object (hs : Entries.Sorted ms)
    (h : ofJson (.object ms) = .ok e) : Written (.object ms) e := by
  obtain ⟨hname, hversion, hurl⟩ := members_of_ofJson hs h
  exact .object hname hversion (hurl.imp_right
    (Exists.imp fun _ => And.imp_right decodeOption_eq_ok_iff.1))

lemma written_of_ofJson_array (h : ofJson (.array l) = .ok e) :
    Written (.array l) e := by
  rw [ofJson] at h
  obtain ⟨⟨name, rest⟩, h₁, h⟩ := exists_of_bind_eq_ok h
  obtain ⟨⟨version, rest'⟩, h₂, h⟩ := exists_of_bind_eq_ok h
  obtain ⟨⟨url, rest''⟩, h₃, h⟩ := exists_of_bind_eq_ok h
  obtain ⟨_, h₄, rfl⟩ := exists_of_bind_pure_eq_ok h
  obtain ⟨a, rfl, ha⟩ := Json.exists_of_decodeNext h₁
  obtain ⟨b, rfl, hb⟩ := Json.exists_of_decodeNext h₂
  obtain rfl := eq_of_decodeString ha
  obtain rfl := eq_of_decodeString hb
  obtain rfl := Json.eq_nil_of_decodeDone h₄
  obtain ⟨rfl, -, rfl⟩ | ⟨u, rfl, hu⟩ := Json.exists_of_decodeNextOr h₃
  · exact .two name version
  · exact .three name version (decodeOption_eq_ok_iff.1 hu)

/-- Exactly what is written as an entry is read, and as this entry. -/
theorem ofJson_eq_ok_iff (a : TidyJson) :
    ofJson a = .ok e ↔ Written a e := by
  obtain ⟨a, ht⟩ := a
  constructor
  · intro h
    cases a with
    | object ms => exact written_of_ofJson_object ht.1 h
    | array l => exact written_of_ofJson_array h
    | _ => cases h
  · intro hw
    cases a with
    | object ms => exact ofJson_object_of_written ht.1 hw
    | array l =>
      cases hw with
      | two => rfl
      | three _ _ hu => cases hu <;> rfl
    | _ => cases hw

end SoftwareEntry

namespace TypedOperation

/-! ### Reading an operation as one of a kind -/

variable {o : Operation} {kind name : String} {t : TypedOperation}
  {header : OperationHeader} {payload a : Json} {l : List Json}
  {software : List SoftwareEntry}

lemma exists_forall₂_iff {α β : Type} {r : α → β → Prop} {l : List α} :
    (∃ l', List.Forall₂ r l l') ↔ ∀ a ∈ l, ∃ b, r a b := by
  induction l with
  | nil =>
    exact ⟨fun _ a ha => absurd ha List.not_mem_nil, fun _ => ⟨[], .nil⟩⟩
  | cons a l ih =>
    rw [List.forall_mem_cons, ← ih]
    constructor
    · rintro ⟨_, _ | ⟨hb, hl⟩⟩
      exact ⟨⟨_, hb⟩, _, hl⟩
    · rintro ⟨⟨b, hb⟩, l', hl⟩
      exact ⟨b :: l', .cons hb hl⟩

/-- A list of entries is read entry by entry. -/
lemma decodeSoftware_eq_ok_iff (payload : TidyJson) :
    decodeSoftware payload = .ok software
      ↔ ∃ l, (payload : Json) = .array l
        ∧ List.Forall₂ SoftwareEntry.Written l software := by
  obtain ⟨payload, ht⟩ := payload
  cases payload with
  | array l =>
    lift l to List TidyJson using Json.tidyElements_iff.1 ht
    simp only [Json.array.injEq, exists_eq_left']
    rw [decodeSoftware, Json.decodeList]
    clear ht
    induction l generalizing software with
    | nil =>
      rw [List.map_nil, List.forall₂_nil_left_iff]
      constructor
      · exact fun h => (Except.ok.inj h).symm
      · rintro rfl
        rfl
    | cons a l ih =>
      rw [List.map_cons, List.mapM_cons]
      constructor
      · intro h
        obtain ⟨e, ha, h⟩ := exists_of_bind_eq_ok h
        obtain ⟨rest, hl, rfl⟩ := exists_of_bind_pure_eq_ok h
        exact .cons ((SoftwareEntry.ofJson_eq_ok_iff a).1 ha) (ih.1 hl)
      · rintro (_ | ⟨ha, hl⟩)
        rw [(SoftwareEntry.ofJson_eq_ok_iff a).2 ha, ih.2 hl]
        rfl
  | _ =>
    constructor
    · intro h
      cases h
    · rintro ⟨l, h, -⟩
      cases h

/-- A list of values that are all written as entries. -/
def IsSoftwareList (payload : Json) : Prop :=
  ∃ l, payload = .array l ∧ ∀ a ∈ l, ∃ e, SoftwareEntry.Written a e

/-- What an operation is read as, by the kind. -/
inductive ReadAs (header : OperationHeader) (payload : Json) :
    String → TypedOperation → Prop where
  | restart : ReadAs header payload Kind.restart (.restart header)
  | softwareUpdate {l : List Json} {software : List SoftwareEntry}
    (hp : payload = .array l)
    (hl : List.Forall₂ SoftwareEntry.Written l software) :
    ReadAs header payload Kind.softwareList (.softwareUpdate header software)
  | custom {kind : String} (hr : kind ≠ Kind.restart)
    (hs : kind ≠ Kind.softwareList) :
    ReadAs header payload kind (.custom header kind payload)

/-- What is made of a header and a fragment of an operation. -/
lemma madeFrom_iff_readAs {o : TidyOperation Kind.softwareList}
    (hp : o.fragment? kind = some payload) :
    MadeFrom header kind payload t ↔ ReadAs header payload kind t := by
  constructor
  · intro h
    cases h with
    | restart hk => exact hk ▸ .restart
    | softwareUpdate hk hd =>
      lift payload to TidyJson using o.tidy payload (hk ▸ hp)
      obtain ⟨l, hp, hl⟩ := (decodeSoftware_eq_ok_iff payload).1 hd
      exact hk ▸ .softwareUpdate hp hl
    | custom hr hs => exact .custom hr hs
  · intro h
    cases h with
    | restart => exact .restart rfl
    | softwareUpdate ha hl =>
      lift payload to TidyJson using o.tidy payload hp
      exact .softwareUpdate rfl
        ((decodeSoftware_eq_ok_iff payload).2 ⟨_, ha, hl⟩)
    | custom hr hs => exact .custom hr hs

/-- A fragment can be read unless it is for a software update and not a
list of entries. -/
lemma exists_readAs_iff :
    (∃ t, ReadAs header payload kind t)
      ↔ (kind = Kind.softwareList → IsSoftwareList payload) := by
  constructor
  · rintro ⟨t, h⟩ hk
    cases h with
    | restart => exact absurd hk (by decide)
    | softwareUpdate hp hl =>
      exact ⟨_, hp, exists_forall₂_iff.1 ⟨_, hl⟩⟩
    | custom hr hs => exact absurd hk hs
  · intro h
    by_cases hr : kind = Kind.restart
    · exact hr ▸ ⟨_, .restart⟩
    · by_cases hs : kind = Kind.softwareList
      · obtain ⟨l, hp, hl⟩ := h hs
        obtain ⟨software, hl⟩ := exists_forall₂_iff.2 hl
        exact hs ▸ ⟨_, .softwareUpdate hp hl⟩
      · exact ⟨_, .custom hr hs⟩

lemma ofOperation_eq_ok_iff_readAs {o : TidyOperation Kind.softwareList}
    (hp : o.fragment? kind = some payload) :
    ofOperation o.toOperation kind = .ok t
      ↔ ReadAs (.ofOperation o.toOperation kind) payload kind t := by
  rw [ofOperation_eq_ok_iff hp, madeFrom_iff_readAs hp]

/-! ### Fragments of other names -/

/-- A typed operation with one more fragment beside that of its kind. -/
def withExtra (t : TypedOperation) (name : String) (a : Json) :
    TypedOperation :=
  t.withHeader { t.header with extra := t.header.extra.insert name a }

lemma header_withFragment (o : Operation) (a : Json) (hne : name ≠ kind) :
    OperationHeader.ofOperation (o.withFragment name a) kind
      = { OperationHeader.ofOperation o kind with
          extra := (OperationHeader.ofOperation o kind).extra.insert
            name a } := by
  have hextra : (o.fragments.insert name a).erase kind
      = (o.fragments.erase kind).insert name a :=
    Dict.ext_find? fun k => by grind
  rw [OperationHeader.ofOperation, Operation.withFragment, hextra]
  rfl

lemma fragment?_withFragment (o : Operation) (a : Json)
    (hne : name ≠ kind) :
    (o.withFragment name a).fragment? kind = o.fragment? kind := by
  rw [Operation.fragment?, Operation.withFragment, Dict.find?_insert,
    if_neg (Ne.symm hne)]
  rfl

/-- A fragment of another name travels along. -/
theorem ofOperation_withFragment (o : Operation) (a : Json)
    (hne : name ≠ kind) :
    ofOperation (o.withFragment name a) kind
      = (ofOperation o kind).map (·.withExtra name a) := by
  unfold ofOperation
  rw [fragment?_withFragment o a hne, header_withFragment o a hne]
  cases o.fragment? kind with
  | none => rfl
  | some payload =>
    simp only [Json.require, ok_bind]
    split
    · rfl
    · split
      · cases decodeSoftware payload <;> rfl
      · rfl

end TypedOperation

namespace Matching

/-! ### The kind that matches -/

variable {o : Operation} {supported supported' : List String}
  {kind name : String} {t : TypedOperation}

/-- Exactly one fragment of the operation has a supported name, and it is
this one. -/
def IsOnly (o : Operation) (supported : List String) (kind : String) :
    Prop :=
  ∀ name, name ∈ o.fragmentNames ∧ name ∈ supported ↔ name = kind

lemma matchKind?_eq_some_iff_isOnly :
    matchKind? o supported = some kind ↔ IsOnly o supported kind := by
  have hnodup : (o.fragmentNames.filter (supported.contains ·)).Nodup :=
    (o.fragments.keys_pairwise.imp fun h => String.ne_of_lt h).filter _
  rw [matchKind?_eq_some_iff, ← List.perm_singleton,
    List.perm_ext_iff_of_nodup hnodup (List.pairwise_singleton _ _)]
  simp only [List.mem_filter, List.contains_iff_mem, List.mem_singleton]
  exact Iff.rfl

lemma mem_fragmentNames_iff :
    name ∈ o.fragmentNames ↔ ∃ a, o.fragment? name = some a := by
  rw [Operation.fragmentNames, ← Dict.contains_eq_true_iff, Dict.contains,
    Option.isSome_iff_exists]
  exact Iff.rfl

/-- Fragments whose names are not supported do not matter. -/
lemma isOnly_withFragment (a : Json) (hn : name ∉ supported) :
    IsOnly (o.withFragment name a) supported kind
      ↔ IsOnly o supported kind := by
  have hmem : ∀ n, n ∈ (o.withFragment name a).fragmentNames
        ∧ n ∈ supported
      ↔ n ∈ o.fragmentNames ∧ n ∈ supported := by
    intro n
    refine and_congr_left fun hs => ?_
    have hne : name ≠ n := fun h => hn (h ▸ hs)
    rw [mem_fragmentNames_iff, mem_fragmentNames_iff,
      TypedOperation.fragment?_withFragment o a hne]
  exact forall_congr' fun n => by rw [hmem]

/-- Kinds that the operation does not carry do not matter. -/
lemma isOnly_congr (hk : kind ∉ o.fragmentNames)
    (hs : ∀ k, k ∈ supported' ↔ k = kind ∨ k ∈ supported) (k : String) :
    IsOnly o supported' k ↔ IsOnly o supported k := by
  have hmem : ∀ n, n ∈ o.fragmentNames ∧ n ∈ supported'
      ↔ n ∈ o.fragmentNames ∧ n ∈ supported := by
    intro n
    refine and_congr_right fun hn => ?_
    rw [hs, or_iff_right fun h : n = kind => hk (h ▸ hn)]
  exact forall_congr' fun n => by rw [hmem]

lemma IsOnly.exists_fragment (h : IsOnly o supported kind) :
    ∃ payload, o.fragment? kind = some payload :=
  mem_fragmentNames_iff.1 ((h kind).2 rfl).1

/-! ### Converted operations -/

/-- A converted operation was made for the one kind that matched. -/
lemma convert?_eq_some (h : convert? o supported = some t) :
    matchKind? o supported = some t.kind
      ∧ TypedOperation.ofOperation o t.kind = .ok t := by
  obtain ⟨kind, hk, ht⟩ := Option.bind_eq_some_iff.1 h
  have hok : TypedOperation.ofOperation o kind = .ok t := by
    cases hr : TypedOperation.ofOperation o kind with
    | error e => simp [hr, Except.toOption] at ht
    | ok t' => simpa [hr, Except.toOption] using ht
  rw [TypedOperation.kind_ofOperation hok]
  exact ⟨hk, hok⟩

lemma header_of_convert? (h : convert? o supported = some t) :
    t.header = .ofOperation o t.kind :=
  (TypedOperation.ofOperation_eq_ok (convert?_eq_some h).2).2

lemma id_of_convert? (h : convert? o supported = some t) : t.id = o.id := by
  rw [TypedOperation.id, header_of_convert? h, OperationHeader.ofOperation]

lemma status_of_convert? (h : convert? o supported = some t) :
    t.status = o.status := by
  rw [TypedOperation.status, header_of_convert? h,
    OperationHeader.ofOperation]

lemma kind_mem_of_convert? (h : convert? o supported = some t) :
    t.kind ∈ supported :=
  (mem_of_matchKind? (convert?_eq_some h).1).1

lemma convert?_eq_some_iff :
    convert? o supported = some t
      ↔ ∃ kind, IsOnly o supported kind
        ∧ TypedOperation.ofOperation o kind = .ok t := by
  constructor
  · intro h
    obtain ⟨hk, ht⟩ := convert?_eq_some h
    exact ⟨t.kind, matchKind?_eq_some_iff_isOnly.1 hk, ht⟩
  · rintro ⟨kind, hk, ht⟩
    rw [convert?, matchKind?_eq_some_iff_isOnly.2 hk, Option.bind_eq_bind,
      Option.bind_some, ht]
    rfl

/-- What an operation is converted to. -/
structure Converted (o : Operation) (supported : List String)
    (t : TypedOperation) : Prop where
  kind : IsOnly o supported t.kind
  id : t.header.id = o.id
  status : t.header.status = o.status
  failureReason : t.header.failureReason = o.failureReason
  /-- All other fragments travel along. -/
  extra : ∀ name, t.header.extra.find? name
    = if name = t.kind then none else o.fragment? name
  /-- The fragment of the kind is read; that of a software update entry by
  entry. -/
  payload : ∃ payload, o.fragment? t.kind = some payload
    ∧ TypedOperation.ReadAs t.header payload t.kind t

/-- Which operations are converted, and to what. -/
structure Converts (o : Operation) (supported : List String) : Prop where
  /-- One fragment alone has a supported name and, for a software update,
  it is a list of entries. -/
  isSome : (convert? o supported).isSome
    ↔ ∃ kind, IsOnly o supported kind
      ∧ (kind = Kind.softwareList → ∃ payload,
        o.fragment? kind = some payload
          ∧ TypedOperation.IsSoftwareList payload)
  result : ∀ t, convert? o supported = some t → Converted o supported t
  /-- A fragment whose name is not supported only travels along. -/
  fragment : ∀ name a, name ∉ supported →
    convert? (o.withFragment name a) supported
      = (convert? o supported).map (·.withExtra name a)
  /-- To support a kind that the operation does not carry changes
  nothing. -/
  supporting : ∀ kind supported', kind ∉ o.fragmentNames →
    (∀ k, k ∈ supported' ↔ k = kind ∨ k ∈ supported) →
      convert? o supported' = convert? o supported

/-- One fragment alone has a supported name, and it can be read. -/
lemma convert?_isSome_iff (o : TidyOperation Kind.softwareList) :
    (convert? o.toOperation supported).isSome
      ↔ ∃ kind, IsOnly o.toOperation supported kind
        ∧ (kind = Kind.softwareList → ∃ payload,
          o.fragment? kind = some payload
            ∧ TypedOperation.IsSoftwareList payload) := by
  simp only [Option.isSome_iff_exists, convert?_eq_some_iff]
  rw [exists_comm]
  refine exists_congr fun kind => ?_
  rw [exists_and_left]
  refine and_congr_right fun hk => ?_
  obtain ⟨payload, hp⟩ := hk.exists_fragment
  simp only [TypedOperation.ofOperation_eq_ok_iff_readAs hp,
    TypedOperation.exists_readAs_iff, hp, Option.some.injEq,
    exists_eq_left']

lemma converted_of_convert? {o : TidyOperation Kind.softwareList}
    (h : convert? o.toOperation supported = some t) :
    Converted o.toOperation supported t := by
  obtain ⟨hmatch, hof⟩ := convert?_eq_some h
  have hk := matchKind?_eq_some_iff_isOnly.1 hmatch
  have hheader := header_of_convert? h
  obtain ⟨payload, hp⟩ := hk.exists_fragment
  refine ⟨hk, by rw [hheader]; rfl, by rw [hheader]; rfl,
    by rw [hheader]; rfl, TypedOperation.find?_extra_ofOperation hof,
    payload, hp, ?_⟩
  rw [hheader]
  exact (TypedOperation.ofOperation_eq_ok_iff_readAs hp).1 hof

lemma convert?_withFragment (o : Operation) (a : Json)
    (hn : name ∉ supported) : convert? (o.withFragment name a) supported
      = (convert? o supported).map (·.withExtra name a) := by
  have hmatch : matchKind? (o.withFragment name a) supported
      = matchKind? o supported := by
    refine Option.ext fun kind => ?_
    rw [matchKind?_eq_some_iff_isOnly, matchKind?_eq_some_iff_isOnly,
      isOnly_withFragment a hn]
  rw [convert?, convert?, hmatch]
  cases hk : matchKind? o supported with
  | none => rfl
  | some kind =>
    have hne : name ≠ kind := fun h => hn (h ▸ (mem_of_matchKind? hk).1)
    simp only [Option.bind_eq_bind, Option.bind_some]
    rw [TypedOperation.ofOperation_withFragment o a hne]
    cases TypedOperation.ofOperation o kind <;> rfl

lemma convert?_congr (hk : kind ∉ o.fragmentNames)
    (hs : ∀ k, k ∈ supported' ↔ k = kind ∨ k ∈ supported) :
    convert? o supported' = convert? o supported := by
  have hmatch : matchKind? o supported' = matchKind? o supported := by
    refine Option.ext fun k => ?_
    rw [matchKind?_eq_some_iff_isOnly, matchKind?_eq_some_iff_isOnly,
      isOnly_congr hk hs]
  rw [convert?, convert?, hmatch]

/-- An operation is converted exactly if it is unambiguous and its
payload well-formed, to what its fragments say.  The keys of a JSON
object are there once and in order. -/
theorem converts (o : TidyOperation Kind.softwareList)
    (supported : List String) : Converts o.toOperation supported where
  isSome := convert?_isSome_iff o
  result := fun _ => converted_of_convert?
  fragment := fun _ a hn => convert?_withFragment _ a hn
  supporting := fun _ _ hk hs => convert?_congr hk hs

/-- A software update with an object, an array and a note beside it. -/
def mixedUpdate : Operation :=
  ((Operation.new "9").withFragment Kind.softwareList
    (.array [.object [("name", .string "a"), ("size", .int 3),
      ("version", .string "1")],
      .array [.string "b", .string "2", .null]])).withFragment "note"
    (.bool true)

lemma tidy_mixedUpdate (payload : Json)
    (hp : mixedUpdate.fragment? Kind.softwareList = some payload) :
    payload.Tidy := by
  obtain rfl : Json.array [.object [("name", .string "a"),
      ("size", .int 3), ("version", .string "1")],
      .array [.string "b", .string "2", .null]] = payload :=
    Option.some.inj hp
  have hsorted : Entries.Sorted [("name", Json.string "a"),
      ("size", .int 3), ("version", .string "1")] :=
    (List.pairwise_map (f := Prod.fst)).1
      (by decide : ["name", "size", "version"].Pairwise (· < ·))
  exact ⟨⟨hsorted, trivial, trivial, trivial, trivial⟩,
    ⟨trivial, trivial, trivial, trivial⟩, trivial⟩

/-- It is converted, entry by entry. -/
theorem converts_mixedUpdate :
    let supported := [Kind.restart, Kind.softwareList]
    Converts mixedUpdate supported
      ∧ convert? mixedUpdate supported
        = some (.softwareUpdate
          (.ofOperation mixedUpdate Kind.softwareList)
          [⟨"a", "1", none⟩, ⟨"b", "2", none⟩]) :=
  ⟨converts ⟨mixedUpdate, tidy_mixedUpdate⟩ _, by decide⟩

end Matching

end RemoteOps
