/-
What is kept of an operation that was made typed and turned back.

The fragment of the kind is written anew: a restart writes an empty
object, a software update the entries that it decoded, any other kind
what it was given.  Everything else is kept as it is.  The operation is
the same again exactly if the fragment had nothing that is not written.

* `SoftwareEntry.Says`: what the members of an object say about an entry;
* `SoftwareEntry.eq_toJson_of_isCanonical`: of the forms of an entry one
  is canonical;
* `SoftwareEntry.toJson_eq_iff`: an entry is written as it was read
  exactly if it was a plain object;
* `TidyOperation`: an operation whose fragment of a kind is tidy;
* `TypedOperation.IsPlain`: fragments that are written as they were read;
* `TypedOperation.turnedBack_ofOperation`: what turning back keeps.
-/
import Mathlib.Data.Set.List
import Mathlib.Tactic.Lemma
import Mathlib.Tactic.Lift
import RemoteOps.Operation.Typed
import RemoteOps.Proofs.Json.Canonical

namespace RemoteOps

namespace SoftwareEntry

/-! ### Reading the members of an object -/

/-- What comes of a field when a member is read that may be its own. -/
def Took {α : Type} (decode : Json → Except DecodeError α)
    (a? : Option Json) (old new : Option α) : Prop :=
  match a? with
  | some a => ∃ x, decode a = .ok x ∧ new = some x
  | none => new = old

/-- The fields after some members were read. -/
structure Fields.Reads (ms : List (String × Json)) (f f' : Fields) :
    Prop where
  name : Took Json.decodeString (Entries.find? "name" ms) f.name f'.name
  version : Took Json.decodeString (Entries.find? "version" ms) f.version
    f'.version
  url : Took Json.decodeOption (Entries.find? "url" ms) f.url f'.url

variable {ms : List (String × Json)} {m : String × Json} {f f' : Fields}
  {e : SoftwareEntry} {a : Json}

/-- Of two members one after the other only one can be that of a
field. -/
lemma Took.append {α : Type} {decode : Json → Except DecodeError α}
    {k : String} {old mid new : Option α}
    (hs : Entries.Sorted (m :: ms))
    (h : Took decode (Entries.find? k [m]) old mid)
    (h' : Took decode (Entries.find? k ms) mid new) :
    Took decode (Entries.find? k (m :: ms)) old new := by
  obtain ⟨k', a⟩ := m
  rw [Entries.find?] at h ⊢
  by_cases hk : k = k'
  · subst hk
    have hnone : Entries.find? k ms = none :=
      Entries.find?_eq_none_of_lt (List.pairwise_cons.1 hs).1
    rw [hnone] at h'
    obtain rfl : new = mid := h'
    rw [if_pos rfl] at h ⊢
    exact h
  · rw [if_neg hk] at h ⊢
    obtain rfl : mid = old := h
    exact h'

lemma Took.own {α : Type} {decode : Json → Except DecodeError α}
    {old : Option α} {x : α} (k : String) (h : decode a = .ok x) :
    Took decode (Entries.find? k [(k, a)]) old (some x) := by
  rw [Entries.find?, if_pos rfl]
  exact ⟨x, h, rfl⟩

lemma Took.other {α : Type} {decode : Json → Except DecodeError α}
    {old : Option α} {k k' : String} (hne : k ≠ k') :
    Took decode (Entries.find? k' [(k, a)]) old old := by
  rw [Entries.find?, if_neg (Ne.symm hne)]
  rfl

/-- A field after all members of an object were read one after the
other, where each is read for the field of its name alone. -/
lemma Took.of_foldlM {F α : Type}
    {read : F → String × Json → Except DecodeError F}
    {decode : Json → Except DecodeError α} {k : String}
    (field : F → Option α)
    (hread : ∀ {f m f'}, read f m = .ok f' →
      Took decode (Entries.find? k [m]) (field f) (field f'))
    (hs : Entries.Sorted ms) {f f' : F} (h : ms.foldlM read f = .ok f') :
    Took decode (Entries.find? k ms) (field f) (field f') := by
  induction ms generalizing f with
  | nil =>
    obtain rfl := Except.ok.inj h
    exact rfl
  | cons m ms ih =>
    rw [List.foldlM_cons] at h
    obtain ⟨f₁, hm, hms⟩ := exists_of_bind_eq_ok h
    exact .append hs (hread hm) (ih (List.pairwise_cons.1 hs).2 hms)

/-- A field that must be there was read from its member. -/
lemma Took.exists_of_require {α : Type}
    {decode : Json → Except DecodeError α} {k : String} {new : Option α}
    {x : α} (h : Took decode (Entries.find? k ms) none new)
    (hr : Json.require k new = .ok x) :
    ∃ a, Entries.find? k ms = some a ∧ decode a = .ok x := by
  cases hf : Entries.find? k ms with
  | none =>
    rw [hf] at h
    obtain rfl : new = none := h
    cases hr
  | some a =>
    rw [hf] at h
    obtain ⟨y, hd, rfl⟩ := h
    obtain rfl : y = x := Except.ok.inj hr
    exact ⟨a, rfl, hd⟩

/-- A field that may be missing is the default then. -/
lemma Took.default_or_exists {α : Type}
    {decode : Json → Except DecodeError α} {k : String} {new : Option α}
    (default : α) (h : Took decode (Entries.find? k ms) none new) :
    (Entries.find? k ms = none ∧ new.getD default = default)
      ∨ ∃ a, Entries.find? k ms = some a
        ∧ decode a = .ok (new.getD default) := by
  cases hf : Entries.find? k ms with
  | none =>
    rw [hf] at h
    obtain rfl : new = none := h
    exact .inl ⟨rfl, rfl⟩
  | some a =>
    rw [hf] at h
    obtain ⟨x, hd, rfl⟩ := h
    exact .inr ⟨a, rfl, hd⟩

/-- A member is read for the field of its name and for no other. -/
lemma Fields.reads_of_read (h : f.read m = .ok f') : Reads [m] f f' := by
  obtain ⟨k, a⟩ := m
  rw [read] at h
  split at h
  · next hk =>
    obtain rfl : k = "name" := hk
    obtain ⟨x, hd, rfl⟩ := exists_of_bind_pure_eq_ok h
    exact ⟨.own _ hd, .other (by decide), .other (by decide)⟩
  · next hk =>
    obtain rfl : k = "version" := hk
    obtain ⟨x, hd, rfl⟩ := exists_of_bind_pure_eq_ok h
    exact ⟨.other (by decide), .own _ hd, .other (by decide)⟩
  · next hk =>
    obtain rfl : k = "url" := hk
    obtain ⟨x, hd, rfl⟩ := exists_of_bind_pure_eq_ok h
    exact ⟨.other (by decide), .other (by decide), .own _ hd⟩
  · next hname hversion hurl =>
    obtain rfl := Except.ok.inj h
    exact ⟨.other hname, .other hversion, .other hurl⟩

/-- The members of an object are read one after the other. -/
lemma Fields.reads_of_foldlM (hs : Entries.Sorted ms)
    (h : ms.foldlM Fields.read f = .ok f') : Reads ms f f' where
  name := .of_foldlM Fields.name (fun h => (reads_of_read h).name) hs h
  version :=
    .of_foldlM Fields.version (fun h => (reads_of_read h).version) hs h
  url := .of_foldlM Fields.url (fun h => (reads_of_read h).url) hs h

/-- What the members of an object say about an entry. -/
structure Says (ms : List (String × Json)) (e : SoftwareEntry) : Prop where
  name : Entries.find? "name" ms = some (.string e.name)
  version : Entries.find? "version" ms = some (.string e.version)
  url : Entries.find? "url" ms = e.url.map Json.string
    ∨ Entries.find? "url" ms = some .null

lemma eq_of_decodeString {s : String} (h : a.decodeString = .ok s) :
    a = .string s := by
  cases a with
  | string s' => rw [Except.ok.inj h]
  | _ => cases h

lemma eq_of_decodeOption {u : Option String} (h : a.decodeOption = .ok u) :
    a = .null ∨ some a = u.map Json.string := by
  cases a with
  | null => exact .inl rfl
  | string s =>
    obtain rfl : some s = u := Except.ok.inj h
    exact .inr rfl
  | _ => cases h

/-- A text that must be there was read from its member. -/
lemma Took.required {k : String} {s : String} {new : Option String}
    (h : Took Json.decodeString (Entries.find? k ms) none new)
    (hr : Json.require k new = .ok s) :
    Entries.find? k ms = some (.string s) := by
  obtain ⟨a, hf, hd⟩ := h.exists_of_require hr
  rw [hf, eq_of_decodeString hd]

/-- What was read from an object stands in its members. -/
lemma members_of_ofJson (hs : Entries.Sorted ms)
    (h : ofJson (.object ms) = .ok e) :
    Entries.find? "name" ms = some (.string e.name)
      ∧ Entries.find? "version" ms = some (.string e.version)
      ∧ ((Entries.find? "url" ms = none ∧ e.url = none)
        ∨ ∃ a, Entries.find? "url" ms = some a
          ∧ a.decodeOption = .ok e.url) := by
  rw [ofJson] at h
  obtain ⟨f, hf, h⟩ := exists_of_bind_eq_ok h
  obtain ⟨name, hname, h⟩ := exists_of_bind_eq_ok h
  obtain ⟨version, hversion, rfl⟩ := exists_of_bind_pure_eq_ok h
  have hreads := Fields.reads_of_foldlM hs hf
  exact ⟨hreads.name.required hname, hreads.version.required hversion,
    hreads.url.default_or_exists none⟩

lemma says_of_ofJson (hs : Entries.Sorted ms)
    (h : ofJson (.object ms) = .ok e) : Says ms e := by
  obtain ⟨hname, hversion, hurl⟩ := members_of_ofJson hs h
  refine ⟨hname, hversion, ?_⟩
  obtain ⟨hnone, hu⟩ | ⟨a, ha, hd⟩ := hurl
  · exact .inl (by rw [hnone, hu]; rfl)
  · rw [ha]
    rcases eq_of_decodeOption hd with rfl | hu
    · exact .inr rfl
    · exact .inl hu

/-! ### The canonical form of an entry -/

/-- An object with the location only if there is one. -/
def IsCanonical (a : Json) : Prop :=
  ∃ ms, a = .object ms
    ∧ Json.CanonicalObject ["name", "version"] ["url"] ms

/-- What is written of an entry is canonical. -/
lemma isCanonical_toJson (e : SoftwareEntry) : IsCanonical e.toJson := by
  obtain ⟨name, version, url⟩ := e
  refine ⟨_, rfl, ?_⟩
  cases url with
  | none =>
    have hkeys : ["name", "version"].Pairwise (· < ·) := by decide
    exact ⟨(List.pairwise_map (f := Prod.fst)).1 hkeys,
      by simp [Json.Ordered], by simp [Entries.find?], by simp, by simp⟩
  | some url =>
    have hkeys : ["name", "url", "version"].Pairwise (· < ·) := by decide
    exact ⟨(List.pairwise_map (f := Prod.fst)).1 hkeys,
      by simp [Json.Ordered], by simp [Entries.find?], by simp, by simp⟩

/-- The location in a canonical form. -/
lemma Says.find?_url
    (hc : Json.CanonicalObject ["name", "version"] ["url"] ms)
    (h : Says ms e) : Entries.find? "url" ms = e.url.map Json.string :=
  h.url.resolve_right hc.find?_ne_null

/-- An entry has one canonical form. -/
theorem eq_toJson_of_isCanonical (hc : IsCanonical a)
    (h : ofJson a = .ok e) : a = e.toJson := by
  obtain ⟨ms, rfl, hobject⟩ := hc
  obtain ⟨ms', hms', hobject'⟩ := isCanonical_toJson e
  have hlook := says_of_ofJson hobject.sorted h
  have hlook' : Says ms' e :=
    says_of_ofJson hobject'.sorted (hms' ▸ ofJson_toJson e)
  rw [hms']
  refine congrArg Json.object (hobject.ext hobject' fun k hk => ?_)
  simp only [List.mem_cons, List.not_mem_nil, or_false] at hk
  rcases hk with (rfl | rfl) | rfl
  · rw [hlook.name, hlook'.name]
  · rw [hlook.version, hlook'.version]
  · rw [hlook.find?_url hobject, hlook'.find?_url hobject']

/-! ### Entries that are written as they were read -/

/-- An object with nothing but a name, a version and perhaps a location,
none of them null. -/
def IsPlain (a : Json) : Prop :=
  ∃ ms, a = .object ms ∧ ∀ m ∈ ms,
    (m.1 = "name" ∨ m.1 = "url" ∨ m.1 = "version") ∧ m.2 ≠ .null

lemma isPlain_toJson (e : SoftwareEntry) : IsPlain e.toJson := by
  obtain ⟨name, version, url⟩ := e
  cases url with
  | none => exact ⟨_, rfl, by simp⟩
  | some url => exact ⟨_, rfl, by simp⟩

/-- A plain object that is read as an entry is canonical. -/
lemma IsPlain.isCanonical {a : TidyJson} (hp : IsPlain a)
    (h : ofJson a = .ok e) : IsCanonical a := by
  obtain ⟨a, ht⟩ := a
  obtain ⟨ms, rfl, hplain⟩ := hp
  have hlook := says_of_ofJson ht.1 h
  refine ⟨ms, rfl, ht.1,
    fun m hm => (Json.tidyMembers_iff.1 ht.2 m hm).ordered, ?_,
    fun m hm => ?_, fun m hm => (hplain m hm).2⟩
  · simp [hlook.name, hlook.version]
  · obtain h | h | h := (hplain m hm).1 <;> simp [h]

/-- An entry is written as it was read exactly if it was a plain
object. -/
theorem toJson_eq_iff {a : TidyJson} (h : ofJson a = .ok e) :
    e.toJson = a ↔ IsPlain a := by
  constructor
  · intro he
    exact he ▸ isPlain_toJson e
  · intro hp
    exact (eq_toJson_of_isCanonical (hp.isCanonical h) h).symm

end SoftwareEntry

/-- An operation whose fragment of a kind is tidy, if there is one. -/
structure TidyOperation (kind : String) extends Operation where
  tidy : ∀ payload, toOperation.fragment? kind = some payload →
    payload.Tidy

namespace TypedOperation

/-! ### Lists of entries -/

/-- A list of entries is written as it was read exactly if all of them
were plain objects. -/
lemma map_toJson_eq_iff {l : List TidyJson} {software : List SoftwareEntry}
    (h : (l.map Subtype.val).mapM SoftwareEntry.ofJson = .ok software) :
    software.map SoftwareEntry.toJson = l.map Subtype.val
      ↔ ∀ a ∈ l.map Subtype.val, SoftwareEntry.IsPlain a := by
  induction l generalizing software with
  | nil =>
    obtain rfl : software = [] := (Except.ok.inj h).symm
    simp
  | cons a l ih =>
    rw [List.map_cons, List.mapM_cons] at h
    obtain ⟨e, ha, h⟩ := exists_of_bind_eq_ok h
    obtain ⟨rest, hl, h⟩ := exists_of_bind_eq_ok h
    obtain rfl : software = e :: rest := (Except.ok.inj h).symm
    rw [List.map_cons, List.map_cons, List.cons.injEq, List.forall_mem_cons,
      SoftwareEntry.toJson_eq_iff ha, ih hl]

/-- What is written of a list of entries is read back. -/
lemma decodeSoftware_map_toJson (software : List SoftwareEntry) :
    decodeSoftware (.array (software.map SoftwareEntry.toJson))
      = .ok software := by
  rw [decodeSoftware, Json.decodeList]
  induction software with
  | nil => rfl
  | cons e software ih =>
    rw [List.map_cons, List.mapM_cons, SoftwareEntry.ofJson_toJson, ih]
    rfl

/-! ### Turning back -/

/-- A fragment of a kind that is written as it was read. -/
def IsPlain (kind : String) (payload : Json) : Prop :=
  if kind = Kind.restart then payload = .object []
  else if kind = Kind.softwareList then
    ∃ l, payload = .array l ∧ ∀ a ∈ l, SoftwareEntry.IsPlain a
  else True

/-- What is made of a header and a fragment of a kind. -/
inductive MadeFrom (header : OperationHeader) (kind : String)
    (payload : Json) : TypedOperation → Prop where
  | restart (hk : kind = Kind.restart) :
    MadeFrom header kind payload (.restart header)
  | softwareUpdate {software : List SoftwareEntry}
    (hk : kind = Kind.softwareList)
    (hd : decodeSoftware payload = .ok software) :
    MadeFrom header kind payload (.softwareUpdate header software)
  | custom (hr : kind ≠ Kind.restart) (hs : kind ≠ Kind.softwareList) :
    MadeFrom header kind payload (.custom header kind payload)

variable {o : Operation} {kind : String} {t : TypedOperation}
  {h : OperationHeader} {payload : Json}

lemma exists_fragment (h : ofOperation o kind = .ok t) :
    ∃ payload, o.fragment? kind = some payload := by
  rw [ofOperation] at h
  cases hp : o.fragment? kind with
  | none => simp [hp, Json.require, bind, Except.bind] at h
  | some payload => exact ⟨payload, rfl⟩

lemma ofOperation_eq_ok_iff (hp : o.fragment? kind = some payload) :
    ofOperation o kind = .ok t
      ↔ MadeFrom (.ofOperation o kind) kind payload t := by
  simp only [ofOperation, hp, Json.require, bind, Except.bind, pure,
    Except.pure]
  constructor
  · intro h
    split at h
    · next hk =>
      obtain rfl := Except.ok.inj h
      exact .restart hk
    · next hr =>
      split at h
      · next hk =>
        cases hd : decodeSoftware payload with
        | error e => simp [hd] at h
        | ok software =>
          simp only [hd] at h
          obtain rfl := Except.ok.inj h
          exact .softwareUpdate hk hd
      · next hs =>
        obtain rfl := Except.ok.inj h
        exact .custom hr hs
  · intro h
    cases h with
    | restart hk => rw [if_pos hk]
    | softwareUpdate hk hd =>
      have hr : kind ≠ Kind.restart := hk ▸ by decide
      rw [if_neg hr, if_pos hk, hd]
    | custom hr hs => rw [if_neg hr, if_neg hs]

/-- The fragment of the kind is written as it was read exactly if it is
plain. -/
lemma MadeFrom.payload_eq_iff {payload : TidyJson}
    (hm : MadeFrom h kind payload t) :
    t.payload = payload ↔ IsPlain kind payload := by
  obtain ⟨payload, ht⟩ := payload
  cases hm with
  | restart hk =>
    rw [IsPlain, if_pos hk]
    exact eq_comm
  | @softwareUpdate software hk hd =>
    have hr : kind ≠ Kind.restart := hk ▸ by decide
    rw [IsPlain, if_neg hr, if_pos hk]
    cases payload with
    | array l =>
      lift l to List TidyJson using Json.tidyElements_iff.1 ht
      show Json.array (software.map SoftwareEntry.toJson) = _ ↔ _
      simp only [Json.array.injEq, exists_eq_left']
      exact map_toJson_eq_iff hd
    | _ => cases hd
  | custom hr hs =>
    rw [IsPlain, if_neg hr, if_neg hs]
    exact iff_true_intro rfl

/-- What is written makes the same typed operation. -/
lemma MadeFrom.again (hm : MadeFrom h kind payload t) :
    MadeFrom h kind t.payload t := by
  cases hm with
  | restart hk => exact .restart hk
  | softwareUpdate hk =>
    exact .softwareUpdate hk (decodeSoftware_map_toJson _)
  | custom hr hs => exact .custom hr hs

/-- The header travels along. -/
lemma ofOperation_toOperation (o : Operation) (kind : String) (a : Json) :
    OperationHeader.ofOperation
      ((OperationHeader.ofOperation o kind).toOperation kind a) kind
        = OperationHeader.ofOperation o kind := by
  have herase : ((o.fragments.erase kind).insert kind a).erase kind
      = o.fragments.erase kind := by
    refine Dict.erase_insert a ?_
    rw [Dict.find?_erase, if_pos rfl]
  simp only [OperationHeader.ofOperation, OperationHeader.toOperation,
    herase]

/-- The operation that a typed operation is turned back to. -/
lemma toOperation_eq (hof : ofOperation o kind = .ok t) :
    t.toOperation
      = (OperationHeader.ofOperation o kind).toOperation kind t.payload := by
  obtain ⟨hkind, hheader⟩ := ofOperation_eq_ok hof
  rw [toOperation, hkind, hheader]

/-- The fragments of the operation that a typed operation is turned back
to. -/
lemma fragment?_toOperation (hof : ofOperation o kind = .ok t)
    (name : String) : t.toOperation.fragment? name
      = if name = kind then some t.payload else o.fragment? name := by
  rw [toOperation_eq hof, Operation.fragment?, OperationHeader.toOperation,
    OperationHeader.ofOperation, Dict.find?_insert, Dict.find?_erase]
  split <;> rfl

/-- What a typed operation is turned back to can be made typed again. -/
lemma ofOperation_again (hof : ofOperation o kind = .ok t) :
    ofOperation t.toOperation kind = .ok t := by
  obtain ⟨payload, hp⟩ := exists_fragment hof
  have hm := (ofOperation_eq_ok_iff hp).1 hof
  have hp' : t.toOperation.fragment? kind = some t.payload := by
    rw [fragment?_toOperation hof, if_pos rfl]
  rw [ofOperation_eq_ok_iff hp', toOperation_eq hof, ofOperation_toOperation]
  exact hm.again

/-- What turning an operation back keeps. -/
structure TurnedBack (o : Operation) (kind : String) (t : TypedOperation) :
    Prop where
  id : t.toOperation.id = o.id
  status : t.toOperation.status = o.status
  failureReason : t.toOperation.failureReason = o.failureReason
  /-- Every other fragment is kept as it was, or stays missing. -/
  others : ∀ name, name ≠ kind →
    t.toOperation.fragment? name = o.fragment? name
  /-- What the fragment of the kind says can be read again. -/
  again : ofOperation t.toOperation kind = .ok t
  /-- The operation is the same again exactly if this fragment is
  plain. -/
  same : t.toOperation = o
    ↔ ∀ payload, o.fragment? kind = some payload → IsPlain kind payload

/-- An operation that is made typed and turned back keeps everything but
what the fragment of its kind holds beside what is written. -/
theorem turnedBack_ofOperation {o : TidyOperation kind}
    (hof : ofOperation o.toOperation kind = .ok t) :
    TurnedBack o.toOperation kind t := by
  obtain ⟨payload, hp⟩ := exists_fragment hof
  lift payload to TidyJson using o.tidy payload hp
  have hm := (ofOperation_eq_ok_iff hp).1 hof
  have heq := toOperation_eq hof
  have hfragment := fragment?_toOperation hof
  refine ⟨by rw [heq]; rfl, by rw [heq]; rfl, by rw [heq]; rfl,
    fun name hne => ?_, ofOperation_again hof, ?_⟩
  · rw [hfragment, if_neg hne]
  · have hiff : (∀ payload, o.fragment? kind = some payload →
        IsPlain kind payload) ↔ t.payload = payload := by
      rw [hm.payload_eq_iff]
      constructor
      · intro hplain
        exact hplain payload hp
      · intro hplain payload' hp'
        rwa [Option.some.inj (hp'.symm.trans hp)]
    rw [hiff]
    constructor
    · intro hback
      have hkind := hfragment kind
      rw [hback, if_pos rfl, hp] at hkind
      exact (Option.some.inj hkind).symm
    · intro hpayload
      rw [heq, hpayload, OperationHeader.toOperation,
        OperationHeader.ofOperation, Dict.insert_erase hp]

/-- A restart with a time for it. -/
def delayedRestart : Operation :=
  (Operation.new "7").withFragment Kind.restart
    (.object [("delay", .int 60)])

lemma tidy_delayedRestart (payload : Json)
    (hp : delayedRestart.fragment? Kind.restart = some payload) :
    payload.Tidy := by
  obtain rfl : Json.object [("delay", .int 60)] = payload :=
    Option.some.inj hp
  exact ⟨List.pairwise_singleton _ _, trivial, trivial⟩

/-- It is turned back to a restart without one. -/
theorem turnedBack_delayedRestart :
    let t := TypedOperation.restart
      (.ofOperation delayedRestart Kind.restart)
    ofOperation delayedRestart Kind.restart = .ok t
      ∧ TurnedBack delayedRestart Kind.restart t
      ∧ t.toOperation
        = (Operation.new "7").withFragment Kind.restart (.object [])
      ∧ t.toOperation ≠ delayedRestart := by
  intro t
  have hof : ofOperation delayedRestart Kind.restart = .ok t := rfl
  exact ⟨hof, turnedBack_ofOperation
    (o := ⟨delayedRestart, tidy_delayedRestart⟩) hof, rfl, by decide⟩

end TypedOperation

end RemoteOps
