/-
Canonical forms of values.

What a value stands for may be written in several ways.  An object with
just the members that are written, none of them null, is canonical; if
what is written of something is canonical, is read back and is its only
canonical form, then reading and writing brings all forms to this one.

* `Json.decodeOption_eq_ok_iff_ofOption`, `Json.decodeDict_eq_ok_iff`:
  optional texts and dictionaries have one form;
* `Json.CanonicalObject.ext`: a canonical object says nothing beside its
  known members;
* `Normalizes`: all forms are brought to one;
* `Normalizes.of_unique`: so they are if there is one canonical form.
-/
import RemoteOps.Proofs.Json.RoundTrip

namespace RemoteOps

namespace Json

/-! ### Texts and dictionaries -/

variable {a : Json} {d : Dict Json} {s : Option String}

/-- The members of an object stand in the order of their keys; of what
they hold nothing is said. -/
def Ordered : Json → Prop
  | object ms => Entries.Sorted ms
  | _ => True

lemma Tidy.ordered (h : a.Tidy) : a.Ordered := by
  cases a with
  | object ms => exact h.1
  | _ => trivial

lemma decodeOption_ofOption (s : Option String) :
    (ofOption s).decodeOption = .ok s := by
  cases s <;> rfl

/-- A text or null is read as what it is. -/
lemma decodeOption_eq_ok_iff_ofOption :
    a.decodeOption = .ok s ↔ a = ofOption s := by
  constructor
  · intro h
    cases a with
    | null =>
      obtain rfl : none = s := Except.ok.inj h
      rfl
    | string t =>
      obtain rfl : some t = s := Except.ok.inj h
      rfl
    | _ => cases h
  · rintro rfl
    exact decodeOption_ofOption s

lemma decodeDict_ofDict (d : Dict Json) : (ofDict d).decodeDict = .ok d :=
  congrArg Except.ok
    (Dict.eq_of_entries_eq (Entries.ofList_eq_self d.sorted))

/-- An object in order is read as the dictionary with its members. -/
lemma decodeDict_eq_ok_iff (ha : a.Ordered) :
    a.decodeDict = .ok d ↔ a = ofDict d := by
  constructor
  · intro h
    cases a with
    | object ms =>
      obtain rfl := Except.ok.inj h
      exact congrArg object (Entries.ofList_eq_self ha).symm
    | _ => cases h
  · rintro rfl
    exact decodeDict_ofDict d

/-! ### Elements of arrays -/

variable {α : Type} {decode : Json → Except DecodeError α} {x default : α}
  {index : Nat} {expected : String} {rest : List Json}

lemma decodeNext_cons (h : decode a = .ok x) :
    decodeNext decode index expected (a :: rest) = .ok (x, rest) := by
  rw [decodeNext, h]
  rfl

lemma decodeNextOr_cons (h : decode a = .ok x) :
    decodeNextOr decode default (a :: rest) = .ok (x, rest) := by
  rw [decodeNextOr, h]
  rfl

/-! ### Canonical objects -/

/-- The members of an object that has just what is written: some keys
always, some only for a value, and no null. -/
structure CanonicalObject (always sometimes : List String)
    (ms : List (String × Json)) : Prop where
  sorted : Entries.Sorted ms
  ordered : ∀ m ∈ ms, m.2.Ordered
  complete : ∀ k ∈ always, ∃ a, Entries.find? k ms = some a
  known : ∀ m ∈ ms, m.1 ∈ always ∨ m.1 ∈ sometimes
  notNull : ∀ m ∈ ms, m.2 ≠ .null

namespace CanonicalObject

variable {always sometimes : List String} {ms ms' : List (String × Json)}
  {k : String}

lemma find?_ne_null (h : CanonicalObject always sometimes ms) :
    Entries.find? k ms ≠ some .null :=
  fun hf => h.notNull _ ((Entries.find?_eq_some_iff h.sorted).1 hf) rfl

lemma find?_eq_none (h : CanonicalObject always sometimes ms)
    (hk : ¬(k ∈ always ∨ k ∈ sometimes)) : Entries.find? k ms = none :=
  Option.eq_none_iff_forall_ne_some.2 fun _ hf =>
    hk (h.known _ ((Entries.find?_eq_some_iff h.sorted).1 hf))

/-- It says nothing beside its known members. -/
lemma ext (h : CanonicalObject always sometimes ms)
    (h' : CanonicalObject always sometimes ms')
    (hfind : ∀ k, k ∈ always ∨ k ∈ sometimes →
      Entries.find? k ms = Entries.find? k ms') : ms = ms' := by
  refine Entries.eq_of_find?_eq h.sorted h'.sorted fun k => ?_
  by_cases hk : k ∈ always ∨ k ∈ sometimes
  · exact hfind k hk
  · rw [h.find?_eq_none hk, h'.find?_eq_none hk]

/-- A text that may be missing is there exactly if there is one. -/
lemma find?_of_ofOption (h : CanonicalObject always sometimes ms)
    (hs : (Entries.find? k ms = none ∧ s = none)
      ∨ Entries.find? k ms = some (ofOption s)) :
    Entries.find? k ms = s.map string := by
  obtain ⟨hf, rfl⟩ | hf := hs
  · exact hf
  · cases s with
    | none => exact absurd hf h.find?_ne_null
    | some s => exact hf

end CanonicalObject

end Json

/-! ### Reading and writing -/

section Normalizes

variable {α : Type} {decode : Json → Except DecodeError α}
  {encode : α → Json} {Denotes : Json → α → Prop}
  {IsCanonical : Json → Prop} {Same : α → α → Prop}

/-- What is written of a value after it was read. -/
def normalized (decode : Json → Except DecodeError α) (encode : α → Json)
    (a : Json) : Except DecodeError Json :=
  encode <$> decode a

/-- All forms in which something comes are brought to one. -/
structure Normalizes (decode : Json → Except DecodeError α)
    (encode : α → Json) (Denotes : Json → α → Prop)
    (IsCanonical : Json → Prop) (Same : α → α → Prop) : Prop where
  /-- The forms that are read. -/
  reads : ∀ (a : TidyJson) x, decode a = .ok x ↔ Denotes a x
  readBack : ∀ x, decode (encode x) = .ok x
  /-- What is written is the only canonical form. -/
  canonical : ∀ a x, decode a = .ok x ∧ IsCanonical a ↔ a = encode x
  idempotent : ∀ a b, normalized decode encode a = .ok b →
    normalized decode encode b = .ok b
  /-- Two forms are written alike exactly if they are read alike. -/
  alike : ∀ a b x y, decode a = .ok x → decode b = .ok y →
    (normalized decode encode a = normalized decode encode b ↔ x = y)
  /-- So it is up to the signs of zeros. -/
  same : ∀ x y, (encode x).same (encode y) = true ↔ Same x y

lemma normalized_eq {a : Json} {x : α} (h : decode a = .ok x) :
    normalized decode encode a = .ok (encode x) := by
  rw [normalized, h]
  rfl

lemma exists_of_normalized {a b : Json}
    (h : normalized decode encode a = .ok b) :
    ∃ x, decode a = .ok x ∧ b = encode x := by
  cases hx : decode a with
  | error e =>
    rw [normalized, hx] at h
    cases h
  | ok x =>
    rw [normalized_eq hx] at h
    exact ⟨x, rfl, (Except.ok.inj h).symm⟩

/-- If what is written is read back and is the only canonical form, then
all forms come to it. -/
lemma Normalizes.of_unique
    (reads : ∀ (a : TidyJson) x, decode a = .ok x ↔ Denotes a x)
    (readBack : ∀ x, decode (encode x) = .ok x)
    (isCanonical : ∀ x, IsCanonical (encode x))
    (unique : ∀ {a x}, IsCanonical a → decode a = .ok x → a = encode x)
    (same : ∀ x y, (encode x).same (encode y) = true ↔ Same x y) :
    Normalizes decode encode Denotes IsCanonical Same where
  reads := reads
  readBack := readBack
  canonical a x := by
    constructor
    · rintro ⟨ha, hc⟩
      exact unique hc ha
    · rintro rfl
      exact ⟨readBack x, isCanonical x⟩
  idempotent a b h := by
    obtain ⟨x, -, rfl⟩ := exists_of_normalized h
    exact normalized_eq (readBack x)
  alike a b x y ha hb := by
    rw [normalized_eq ha, normalized_eq hb]
    constructor
    · intro h
      have hread := congrArg decode (Except.ok.inj h)
      rw [readBack, readBack] at hread
      exact Except.ok.inj hread
    · rintro rfl
      rfl
  same := same

end Normalizes

end RemoteOps
