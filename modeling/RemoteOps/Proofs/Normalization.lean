/-
Operations and software, and the one form in which they are written.

An operation, an entry of a software list and installed software can each
come in several forms: as an object with unknown members, with nulls or
without what may be missing, or as an array of the fields, and the status
of an operation as a name or as the only key of an object.  One of these
forms is canonical; it alone is written, and it is read back.

* `Status.Denotes`, `Operation.Denotes`, `InstalledSoftware.Denotes`: the
  values that are read, and as what;
* `Operation.ofJson_eq_ok_iff`, `InstalledSoftware.ofJson_eq_ok_iff`:
  exactly these are read;
* `Operation.eq_toJson_of_isCanonical`: of the forms of an operation one
  is canonical;
* `normalizes`: reading and writing brings all forms to the canonical
  one.
-/
import RemoteOps.Proofs.Conversion

namespace RemoteOps

open SoftwareEntry (Took exists_foldlM eq_of_decodeString)

namespace Status

/-! ### The status -/

/-- A status comes as its name, or as an object with the name as its only
key. -/
inductive Denotes : Json → Status → Prop where
  | name (s : Status) : Denotes (.string s.name) s
  | object (s : Status) : Denotes (.object [(s.name, .null)]) s

variable {a : Json} {s s' : Status}

lemma ofName_eq_ok_iff {n : String} : ofName n = .ok s ↔ n = s.name := by
  rw [← ofName?_eq_some_iff, ofName]
  cases ofName? n <;> simp

lemma name_inj : s.name = s'.name ↔ s = s' := by
  rw [← ofName?_eq_some_iff, ofName?_eq_some_iff.2 rfl, Option.some.injEq]

lemma ofJson_eq_ok_iff : ofJson a = .ok s ↔ Denotes a s := by
  constructor
  · intro h
    unfold ofJson at h
    split at h
    · next n =>
      obtain rfl := ofName_eq_ok_iff.1 h
      exact .name s
    · next n a =>
      obtain ⟨t, ht, h⟩ := exists_of_bind_eq_ok h
      split at h
      · obtain rfl : t = s := Except.ok.inj h
        rw [ofName_eq_ok_iff.1 ht]
        exact .object t
      · cases h
    · cases h
    · cases h
  · rintro (_ | _)
    · exact ofName_eq_ok_iff.2 rfl
    · rw [ofJson, ofName_eq_ok_iff.2 rfl]
      rfl

lemma eq_of_denotes_string {n : String} (h : Denotes (.string n) s) :
    n = s.name := by
  cases h
  rfl

end Status

namespace Operation

/-! ### Operations -/

variable {ms : List (String × Json)} {m : String × Json} {f f' : Fields}
  {o : Operation} {a : Json} {l : List Json}

/-- An operation comes as an object, whose other members do not matter,
or as an array of the fields.  The last two fields may be missing, and
the reason may be null. -/
inductive Denotes : Json → Operation → Prop where
  | object {ms : List (String × Json)} {o : Operation} {a : Json}
    (id : Entries.find? "id" ms = some (.string o.id))
    (status : Entries.find? "status" ms = some a)
    (ha : Status.Denotes a o.status)
    (fragments : (Entries.find? "fragments" ms = none
        ∧ o.fragments = .empty)
      ∨ Entries.find? "fragments" ms = some (.ofDict o.fragments))
    (reason : (Entries.find? "failure_reason" ms = none
        ∧ o.failureReason = none)
      ∨ Entries.find? "failure_reason" ms
        = some (.ofOption o.failureReason)) :
    Denotes (.object ms) o
  | two (id : String) {a : Json} {status : Status}
    (ha : Status.Denotes a status) :
    Denotes (.array [.string id, a]) ⟨id, status, .empty, none⟩
  | three (id : String) {a : Json} {status : Status}
    (ha : Status.Denotes a status) (fragments : Dict Json) :
    Denotes (.array [.string id, a, .ofDict fragments])
      ⟨id, status, fragments, none⟩
  | four (id : String) {a : Json} {status : Status}
    (ha : Status.Denotes a status) (fragments : Dict Json)
    (reason : Option String) :
    Denotes (.array [.string id, a, .ofDict fragments, .ofOption reason])
      ⟨id, status, fragments, reason⟩

/-- The fields after some members were read. -/
structure Fields.Reads (ms : List (String × Json)) (f f' : Fields) :
    Prop where
  id : Took Json.decodeString (Entries.find? "id" ms) f.id f'.id
  status : Took Status.ofJson (Entries.find? "status" ms) f.status
    f'.status
  fragments : Took Json.decodeDict (Entries.find? "fragments" ms)
    f.fragments f'.fragments
  failureReason : Took Json.decodeOption
    (Entries.find? "failure_reason" ms) f.failureReason f'.failureReason

/-- A member is read for the field of its name and for no other. -/
lemma Fields.reads_of_read (h : f.read m = .ok f') : Reads [m] f f' := by
  obtain ⟨k, a⟩ := m
  rw [read] at h
  split at h
  · next hk =>
    obtain rfl : k = "id" := hk
    obtain ⟨x, hd, rfl⟩ := exists_of_bind_pure_eq_ok h
    exact ⟨.own _ hd, .other (by decide), .other (by decide),
      .other (by decide)⟩
  · next hk =>
    obtain rfl : k = "status" := hk
    obtain ⟨x, hd, rfl⟩ := exists_of_bind_pure_eq_ok h
    exact ⟨.other (by decide), .own _ hd, .other (by decide),
      .other (by decide)⟩
  · next hk =>
    obtain rfl : k = "fragments" := hk
    obtain ⟨x, hd, rfl⟩ := exists_of_bind_pure_eq_ok h
    exact ⟨.other (by decide), .other (by decide), .own _ hd,
      .other (by decide)⟩
  · next hk =>
    obtain rfl : k = "failure_reason" := hk
    obtain ⟨x, hd, rfl⟩ := exists_of_bind_pure_eq_ok h
    exact ⟨.other (by decide), .other (by decide), .other (by decide),
      .own _ hd⟩
  · next hid hstatus hfragments hreason =>
    obtain rfl := Except.ok.inj h
    exact ⟨.other hid, .other hstatus, .other hfragments, .other hreason⟩

lemma Fields.reads_of_foldlM (hs : Entries.Sorted ms)
    (h : ms.foldlM Fields.read f = .ok f') : Reads ms f f' where
  id := .of_foldlM Fields.id (fun h => (reads_of_read h).id) hs h
  status :=
    .of_foldlM Fields.status (fun h => (reads_of_read h).status) hs h
  fragments :=
    .of_foldlM Fields.fragments (fun h => (reads_of_read h).fragments) hs h
  failureReason :=
    .of_foldlM Fields.failureReason
      (fun h => (reads_of_read h).failureReason) hs h

/-- The members of an operation can all be read, since no key is there
twice. -/
lemma Fields.exists_read (hs : Entries.Sorted ms)
    (hd : Denotes (.object ms) o) (hm : m ∈ ms) (f : Fields) :
    ∃ f', f.read m = .ok f' := by
  obtain ⟨k, a⟩ := m
  have hf : Entries.find? k ms = some a :=
    (Entries.find?_eq_some_iff hs).2 hm
  cases hd with
  | @object _ _ b id status hb fragments reason =>
    rw [read]
    split
    · next hk =>
      obtain rfl : k = "id" := hk
      obtain rfl : a = _ := Option.some.inj (hf.symm.trans id)
      exact ⟨_, rfl⟩
    · next hk =>
      obtain rfl : k = "status" := hk
      obtain rfl : a = b := Option.some.inj (hf.symm.trans status)
      rw [show Status.ofJson a = .ok _ from Status.ofJson_eq_ok_iff.2 hb]
      exact ⟨_, rfl⟩
    · next hk =>
      obtain rfl : k = "fragments" := hk
      obtain ⟨hnone, -⟩ | hsome := fragments
      · cases hf.symm.trans hnone
      · obtain rfl : a = _ := Option.some.inj (hf.symm.trans hsome)
        rw [Json.decodeDict_ofDict]
        exact ⟨_, rfl⟩
    · next hk =>
      obtain rfl : k = "failure_reason" := hk
      obtain ⟨hnone, -⟩ | hsome := reason
      · cases hf.symm.trans hnone
      · obtain rfl : a = _ := Option.some.inj (hf.symm.trans hsome)
        rw [Json.decodeOption_ofOption _]
        exact ⟨_, rfl⟩
    · exact ⟨f, rfl⟩

lemma ofJson_object_of_denotes (hs : Entries.Sorted ms)
    (hd : Denotes (.object ms) o) : ofJson (.object ms) = .ok o := by
  obtain ⟨f, hf⟩ :=
    exists_foldlM (fun _ hm => Fields.exists_read hs hd hm) {}
  have hreads := Fields.reads_of_foldlM hs hf
  cases hd with
  | object id status ha fragments reason =>
    have hid : f.id = some o.id := hreads.id.eq_some id rfl
    have hstatus : f.status = some o.status :=
      hreads.status.eq_some status (Status.ofJson_eq_ok_iff.2 ha)
    have hfragments : f.fragments.getD .empty = o.fragments :=
      hreads.fragments.getD_eq (fragments.imp_right fun h =>
        ⟨_, h, Json.decodeDict_ofDict _⟩)
    have hreason : f.failureReason.getD none = o.failureReason :=
      hreads.failureReason.getD_eq (reason.imp_right fun h =>
        ⟨_, h, Json.decodeOption_ofOption _⟩)
    rw [ofJson, hf]
    simp only [ok_bind, hid, hstatus, Json.require, hfragments, hreason]
    rfl

lemma denotes_of_ofJson_object (hs : Entries.Sorted ms)
    (hms : ∀ m ∈ ms, m.2.Ordered) (h : ofJson (.object ms) = .ok o) :
    Denotes (.object ms) o := by
  rw [ofJson] at h
  obtain ⟨f, hf, h⟩ := exists_of_bind_eq_ok h
  obtain ⟨id, hid, h⟩ := exists_of_bind_eq_ok h
  obtain ⟨status, hstatus, rfl⟩ := exists_of_bind_pure_eq_ok h
  have hreads := Fields.reads_of_foldlM hs hf
  obtain ⟨a, ha, hdenotes⟩ := hreads.status.exists_of_require hstatus
  refine .object (hreads.id.required hid) ha
    (Status.ofJson_eq_ok_iff.1 hdenotes) ?_ ?_
  · refine (hreads.fragments.default_or_exists .empty).imp_right ?_
    rintro ⟨b, hb, hd⟩
    have hordered : b.Ordered :=
      hms _ ((Entries.find?_eq_some_iff hs).1 hb)
    rw [hb, (Json.decodeDict_eq_ok_iff hordered).1 hd]
  · refine (hreads.failureReason.default_or_exists none).imp_right ?_
    rintro ⟨b, hb, hd⟩
    rw [hb, Json.decodeOption_eq_ok_iff_ofOption.1 hd]

lemma denotes_of_ofJson_array (hl : ∀ a ∈ l, a.Ordered)
    (h : ofJson (.array l) = .ok o) : Denotes (.array l) o := by
  rw [ofJson] at h
  obtain ⟨⟨id, rest⟩, h₁, h⟩ := exists_of_bind_eq_ok h
  obtain ⟨⟨status, rest'⟩, h₂, h⟩ := exists_of_bind_eq_ok h
  obtain ⟨⟨fragments, rest''⟩, h₃, h⟩ := exists_of_bind_eq_ok h
  obtain ⟨⟨reason, rest'''⟩, h₄, h⟩ := exists_of_bind_eq_ok h
  obtain ⟨_, h₅, rfl⟩ := exists_of_bind_pure_eq_ok h
  obtain ⟨a, rfl, ha⟩ := Json.exists_of_decodeNext h₁
  obtain ⟨b, rfl, hb⟩ := Json.exists_of_decodeNext h₂
  obtain rfl := eq_of_decodeString ha
  have hstatus := Status.ofJson_eq_ok_iff.1 hb
  obtain rfl := Json.eq_nil_of_decodeDone h₅
  -- the array may end before the fragments or before the reason
  obtain ⟨rfl, rfl, rfl⟩ | ⟨c, rfl, hc⟩ := Json.exists_of_decodeNextOr h₃
  · obtain ⟨-, -, rfl⟩ | ⟨d, hd, -⟩ := Json.exists_of_decodeNextOr h₄
    · exact .two id hstatus
    · cases hd
  · obtain rfl :=
      (Json.decodeDict_eq_ok_iff (hl c (by simp))).1 hc
    obtain ⟨rfl, -, rfl⟩ | ⟨d, rfl, hd⟩ := Json.exists_of_decodeNextOr h₄
    · exact .three id hstatus fragments
    · obtain rfl := Json.decodeOption_eq_ok_iff_ofOption.1 hd
      exact .four id hstatus fragments reason

lemma ofJson_array_of_denotes (hd : Denotes (.array l) o) :
    ofJson (.array l) = .ok o := by
  have hid : ∀ id, (Json.string id).decodeString = .ok id := fun _ => rfl
  cases hd with
  | two id ha =>
    simp only [ofJson, Json.decodeNext_cons (hid id), ok_bind,
      Json.decodeNext_cons (Status.ofJson_eq_ok_iff.2 ha)]
    rfl
  | three id ha fragments =>
    simp only [ofJson, Json.decodeNext_cons (hid id), ok_bind,
      Json.decodeNext_cons (Status.ofJson_eq_ok_iff.2 ha),
      Json.decodeNextOr_cons (Json.decodeDict_ofDict fragments)]
    rfl
  | four id ha fragments reason =>
    simp only [ofJson, Json.decodeNext_cons (hid id), ok_bind,
      Json.decodeNext_cons (Status.ofJson_eq_ok_iff.2 ha),
      Json.decodeNextOr_cons (Json.decodeDict_ofDict fragments),
      Json.decodeNextOr_cons (Json.decodeOption_ofOption reason)]
    rfl

/-- Exactly these values are read as an operation. -/
theorem ofJson_eq_ok_iff (a : TidyJson) :
    ofJson a = .ok o ↔ Denotes a o := by
  obtain ⟨a, ht⟩ := a
  constructor
  · intro h
    cases a with
    | object ms =>
      exact denotes_of_ofJson_object ht.1
        (fun m hm => (Json.tidyMembers_iff.1 ht.2 m hm).ordered) h
    | array l =>
      exact denotes_of_ofJson_array
        (fun a ha => (Json.tidyElements_iff.1 ht a ha).ordered) h
    | _ => cases h
  · intro hd
    cases a with
    | object ms => exact ofJson_object_of_denotes ht.1 hd
    | array l => exact ofJson_array_of_denotes hd
    | _ => cases hd

/-- The canonical form: an object with the fragments, with the reason
only if there is one, and with the status as a name. -/
def IsCanonical (a : Json) : Prop :=
  ∃ ms, a = .object ms
    ∧ Json.CanonicalObject ["id", "status", "fragments"]
      ["failure_reason"] ms
    ∧ ∃ name, Entries.find? "status" ms = some (.string name)

/-- What is written of an operation is canonical. -/
lemma isCanonical_toJson (o : Operation) : IsCanonical o.toJson := by
  obtain ⟨id, status, fragments, reason⟩ := o
  refine ⟨_, rfl, ?_, status.name, ?_⟩
  · cases reason with
    | none =>
      have hkeys : ["fragments", "id", "status"].Pairwise (· < ·) := by
        decide
      exact ⟨(List.pairwise_map (f := Prod.fst)).1 hkeys,
        by simp [reasonMember, Json.Ordered, Json.ofDict, Status.toJson,
          fragments.sorted],
        by simp [reasonMember, Entries.find?],
        by simp [reasonMember],
        by simp [reasonMember, Json.ofDict, Status.toJson]⟩
    | some reason =>
      have hkeys : ["failure_reason", "fragments", "id",
          "status"].Pairwise (· < ·) := by decide
      exact ⟨(List.pairwise_map (f := Prod.fst)).1 hkeys,
        by simp [reasonMember, Json.Ordered, Json.ofDict, Status.toJson,
          fragments.sorted],
        by simp [reasonMember, Entries.find?],
        by simp [reasonMember],
        by simp [reasonMember, Json.ofDict, Status.toJson]⟩
  · cases reason <;> rfl

/-- What is written of an operation stands for it. -/
lemma denotes_toJson (o : Operation) : Denotes o.toJson o := by
  obtain ⟨id, status, fragments, reason⟩ := o
  cases reason with
  | none =>
    exact .object rfl rfl (.name status) (.inr rfl) (.inl ⟨rfl, rfl⟩)
  | some reason =>
    exact .object rfl rfl (.name status) (.inr rfl) (.inr rfl)

theorem ofJson_toJson (o : Operation) : ofJson o.toJson = .ok o := by
  obtain ⟨ms, hms, hc, -⟩ := isCanonical_toJson o
  have hd := denotes_toJson o
  rw [hms] at hd ⊢
  exact ofJson_object_of_denotes hc.sorted hd

/-- What the members of a canonical form say. -/
structure Says (ms : List (String × Json)) (o : Operation) : Prop where
  id : Entries.find? "id" ms = some (.string o.id)
  status : Entries.find? "status" ms = some o.status.toJson
  fragments : Entries.find? "fragments" ms = some (.ofDict o.fragments)
  failureReason : Entries.find? "failure_reason" ms
    = o.failureReason.map Json.string

lemma says_of_isCanonical (hc : IsCanonical (.object ms))
    (h : ofJson (.object ms) = .ok o) : Says ms o := by
  obtain ⟨_, hms, hobject, name, hname⟩ := hc
  obtain rfl := Json.object.inj hms
  cases denotes_of_ofJson_object hobject.sorted hobject.ordered h with
  | object id status ha fragments reason =>
    refine ⟨id, ?_, ?_, hobject.find?_of_ofOption reason⟩
    · obtain rfl := Option.some.inj (status.symm.trans hname)
      rw [status, Status.eq_of_denotes_string ha]
      rfl
    · -- there are always fragments in a canonical form
      obtain ⟨b, hb⟩ := hobject.complete "fragments" (by simp)
      exact fragments.resolve_left fun h => by simp [hb] at h

/-- An operation has one canonical form. -/
theorem eq_toJson_of_isCanonical (hc : IsCanonical a)
    (h : ofJson a = .ok o) : a = o.toJson := by
  have ⟨ms, hms, hobject, _⟩ := hc
  subst hms
  obtain ⟨ms', hms', hobject', -⟩ := isCanonical_toJson o
  have hlook := says_of_isCanonical hc h
  have hlook' : Says ms' o :=
    says_of_isCanonical (hms' ▸ isCanonical_toJson o)
      (hms' ▸ ofJson_toJson o)
  -- both forms say the same under every key that they may have
  rw [hms']
  refine congrArg Json.object (hobject.ext hobject' fun k hk => ?_)
  simp only [List.mem_cons, List.not_mem_nil, or_false] at hk
  rcases hk with (rfl | rfl | rfl) | rfl
  · rw [hlook.id, hlook'.id]
  · rw [hlook.status, hlook'.status]
  · rw [hlook.fragments, hlook'.fragments]
  · rw [hlook.failureReason, hlook'.failureReason]

/-- What is written of two operations is the same, up to the signs of
zeros, exactly if the operations are. -/
lemma same_toJson_iff {o' : Operation} :
    o.toJson.same o'.toJson = true ↔ o.same o' = true := by
  obtain ⟨id, status, fragments, reason⟩ := o
  obtain ⟨id', status', fragments', reason'⟩ := o'
  cases reason <;> cases reason' <;>
    simp [toJson, reasonMember, same, Json.same, Json.sameMembers,
      Json.ofDict, Status.toJson, Status.name_inj, and_comm, and_assoc,
      and_left_comm]

end Operation

namespace SoftwareEntry

/-! ### Entries of a software list -/

variable {e e' : SoftwareEntry}

lemma same_toJson_iff :
    e.toJson.same e'.toJson = true ↔ e = e' := by
  obtain ⟨name, version, url⟩ := e
  obtain ⟨name', version', url'⟩ := e'
  cases url <;> cases url' <;>
    simp [toJson, Json.same, Json.sameMembers, and_comm]

end SoftwareEntry

namespace InstalledSoftware

/-! ### Installed software -/

variable {ms : List (String × Json)} {m : String × Json} {f f' : Fields}
  {s s' : InstalledSoftware} {a : Json} {l : List Json}

/-- Installed software comes as an object, whose other members do not
matter, or as an array of the two fields. -/
inductive Denotes : Json → InstalledSoftware → Prop where
  | object {ms : List (String × Json)} {s : InstalledSoftware}
    (name : Entries.find? "name" ms = some (.string s.name))
    (version : Entries.find? "version" ms = some (.string s.version)) :
    Denotes (.object ms) s
  | array (name version : String) :
    Denotes (.array [.string name, .string version]) ⟨name, version⟩

/-- The fields after some members were read. -/
structure Fields.Reads (ms : List (String × Json)) (f f' : Fields) :
    Prop where
  name : Took Json.decodeString (Entries.find? "name" ms) f.name f'.name
  version : Took Json.decodeString (Entries.find? "version" ms) f.version
    f'.version

lemma Fields.reads_of_read (h : f.read m = .ok f') : Reads [m] f f' := by
  obtain ⟨k, a⟩ := m
  rw [read] at h
  split at h
  · next hk =>
    obtain rfl : k = "name" := hk
    obtain ⟨x, hd, rfl⟩ := exists_of_bind_pure_eq_ok h
    exact ⟨.own _ hd, .other (by decide)⟩
  · next hk =>
    obtain rfl : k = "version" := hk
    obtain ⟨x, hd, rfl⟩ := exists_of_bind_pure_eq_ok h
    exact ⟨.other (by decide), .own _ hd⟩
  · next hname hversion =>
    obtain rfl := Except.ok.inj h
    exact ⟨.other hname, .other hversion⟩

lemma Fields.reads_of_foldlM (hs : Entries.Sorted ms)
    (h : ms.foldlM Fields.read f = .ok f') : Reads ms f f' where
  name := .of_foldlM Fields.name (fun h => (reads_of_read h).name) hs h
  version :=
    .of_foldlM Fields.version (fun h => (reads_of_read h).version) hs h

lemma Fields.exists_read (hs : Entries.Sorted ms)
    (hd : Denotes (.object ms) s) (hm : m ∈ ms) (f : Fields) :
    ∃ f', f.read m = .ok f' := by
  obtain ⟨k, a⟩ := m
  have hf : Entries.find? k ms = some a :=
    (Entries.find?_eq_some_iff hs).2 hm
  cases hd with
  | object name version =>
    rw [read]
    split
    · next hk =>
      obtain rfl : k = "name" := hk
      obtain rfl : a = _ := Option.some.inj (hf.symm.trans name)
      exact ⟨_, rfl⟩
    · next hk =>
      obtain rfl : k = "version" := hk
      obtain rfl : a = _ := Option.some.inj (hf.symm.trans version)
      exact ⟨_, rfl⟩
    · exact ⟨f, rfl⟩

lemma ofJson_object_of_denotes (hs : Entries.Sorted ms)
    (hd : Denotes (.object ms) s) : ofJson (.object ms) = .ok s := by
  obtain ⟨f, hf⟩ :=
    exists_foldlM (fun _ hm => Fields.exists_read hs hd hm) {}
  have hreads := Fields.reads_of_foldlM hs hf
  cases hd with
  | object name version =>
    have hname : f.name = some s.name := hreads.name.eq_some name rfl
    have hversion : f.version = some s.version :=
      hreads.version.eq_some version rfl
    rw [ofJson, hf]
    simp only [ok_bind, hname, hversion, Json.require]
    rfl

lemma denotes_of_ofJson_object (hs : Entries.Sorted ms)
    (h : ofJson (.object ms) = .ok s) : Denotes (.object ms) s := by
  rw [ofJson] at h
  obtain ⟨f, hf, h⟩ := exists_of_bind_eq_ok h
  obtain ⟨name, hname, h⟩ := exists_of_bind_eq_ok h
  obtain ⟨version, hversion, rfl⟩ := exists_of_bind_pure_eq_ok h
  have hreads := Fields.reads_of_foldlM hs hf
  exact .object (hreads.name.required hname)
    (hreads.version.required hversion)

lemma denotes_of_ofJson_array (h : ofJson (.array l) = .ok s) :
    Denotes (.array l) s := by
  rw [ofJson] at h
  obtain ⟨⟨name, rest⟩, h₁, h⟩ := exists_of_bind_eq_ok h
  obtain ⟨⟨version, rest'⟩, h₂, h⟩ := exists_of_bind_eq_ok h
  obtain ⟨_, h₃, rfl⟩ := exists_of_bind_pure_eq_ok h
  obtain ⟨a, rfl, ha⟩ := Json.exists_of_decodeNext h₁
  obtain ⟨b, rfl, hb⟩ := Json.exists_of_decodeNext h₂
  obtain rfl := eq_of_decodeString ha
  obtain rfl := eq_of_decodeString hb
  obtain rfl := Json.eq_nil_of_decodeDone h₃
  exact .array name version

/-- Exactly these values are read as installed software. -/
theorem ofJson_eq_ok_iff (a : TidyJson) :
    ofJson a = .ok s ↔ Denotes a s := by
  obtain ⟨a, ht⟩ := a
  constructor
  · intro h
    cases a with
    | object ms => exact denotes_of_ofJson_object ht.1 h
    | array l => exact denotes_of_ofJson_array h
    | _ => cases h
  · intro hd
    cases a with
    | object ms => exact ofJson_object_of_denotes ht.1 hd
    | array l =>
      cases hd
      rfl
    | _ => cases hd

/-- The canonical form: an object with the two fields. -/
def IsCanonical (a : Json) : Prop :=
  ∃ ms, a = .object ms ∧ Json.CanonicalObject ["name", "version"] [] ms

lemma isCanonical_toJson (s : InstalledSoftware) :
    IsCanonical s.toJson := by
  have hkeys : ["name", "version"].Pairwise (· < ·) := by decide
  exact ⟨_, rfl, (List.pairwise_map (f := Prod.fst)).1 hkeys,
    by simp [Json.Ordered], by simp [Entries.find?], by simp, by simp⟩

/-- Installed software has one canonical form. -/
theorem eq_toJson_of_isCanonical (hc : IsCanonical a)
    (h : ofJson a = .ok s) : a = s.toJson := by
  obtain ⟨ms, rfl, hobject⟩ := hc
  obtain ⟨ms', hms', hobject'⟩ := isCanonical_toJson s
  rw [hms']
  refine congrArg Json.object (hobject.ext hobject' fun k hk => ?_)
  have hd' : Denotes (.object ms') s :=
    denotes_of_ofJson_object hobject'.sorted (hms' ▸ ofJson_toJson s)
  cases denotes_of_ofJson_object hobject.sorted h with
  | object name version =>
    cases hd' with
    | object name' version' =>
      simp only [List.mem_cons, List.not_mem_nil, or_false] at hk
      rcases hk with rfl | rfl
      · rw [name, name']
      · rw [version, version']

lemma same_toJson_iff :
    s.toJson.same s'.toJson = true ↔ s = s' := by
  obtain ⟨name, version⟩ := s
  obtain ⟨name', version'⟩ := s'
  simp [toJson, Json.same, Json.sameMembers]

end InstalledSoftware

/-- Reading an operation, an entry of a software list or installed
software and writing it again brings every form in which it may come to
the one that is written of it, and that form is read back. -/
theorem normalizes :
    Normalizes Operation.ofJson Operation.toJson Operation.Denotes
        Operation.IsCanonical (fun o o' => o.same o' = true)
      ∧ Normalizes SoftwareEntry.ofJson SoftwareEntry.toJson
        SoftwareEntry.Written SoftwareEntry.IsCanonical (· = ·)
      ∧ Normalizes InstalledSoftware.ofJson InstalledSoftware.toJson
        InstalledSoftware.Denotes InstalledSoftware.IsCanonical (· = ·) :=
  ⟨.of_unique (fun a _ => Operation.ofJson_eq_ok_iff a)
      Operation.ofJson_toJson Operation.isCanonical_toJson
      Operation.eq_toJson_of_isCanonical
      (fun _ _ => Operation.same_toJson_iff),
    .of_unique (fun a _ => SoftwareEntry.ofJson_eq_ok_iff a)
      SoftwareEntry.ofJson_toJson SoftwareEntry.isCanonical_toJson
      SoftwareEntry.eq_toJson_of_isCanonical
      (fun _ _ => SoftwareEntry.same_toJson_iff),
    .of_unique (fun a _ => InstalledSoftware.ofJson_eq_ok_iff a)
      InstalledSoftware.ofJson_toJson InstalledSoftware.isCanonical_toJson
      InstalledSoftware.eq_toJson_of_isCanonical
      (fun _ _ => InstalledSoftware.same_toJson_iff)⟩

/-- An array with the status as an object, and what is written of it. -/
example :
    normalized Operation.ofJson Operation.toJson
        (.array [.string "7", .object [("PENDING", .null)]])
      = .ok (.object [("fragments", .object []), ("id", .string "7"),
        ("status", .string "PENDING")]) := rfl

end RemoteOps
