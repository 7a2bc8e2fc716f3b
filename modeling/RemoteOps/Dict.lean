/-
Dictionaries with text keys, kept in the order of their keys.

The keys of a dictionary increase strictly, by code point, so every
dictionary has one list of entries and two dictionaries with the same
look-ups are equal.

* `Dict.find?_insert`: what a look-up gives after an insertion;
* `Dict.find?_erase`: what a look-up gives after a removal;
* `Dict.ext_find?`: equal look-ups make equal dictionaries;
* `Dict.insert_erase`: putting a removed entry back restores the
  dictionary.
-/

namespace RemoteOps

universe u v

/-! ### Lists of entries -/

namespace Entries

variable {α : Type u}

/-- The keys increase strictly. -/
def Sorted (l : List (String × α)) : Prop :=
  l.Pairwise fun a b => a.1 < b.1

/-- The entry for a key in a list of entries. -/
def find? (k : String) : List (String × α) → Option α
  | [] => none
  | (k', a) :: l => if k = k' then some a else find? k l

/-- Adds an entry at its place and replaces the one with the same
key. -/
def insert (k : String) (a : α) : List (String × α) → List (String × α)
  | [] => [(k, a)]
  | (k', a') :: l =>
    if k < k' then (k, a) :: (k', a') :: l
    else if k = k' then (k, a) :: l
    else (k', a') :: insert k a l

/-- Builds a list of entries in order; of two entries with one key the
later one stays. -/
def ofList (l : List (String × α)) : List (String × α) :=
  l.foldl (fun acc e => insert e.1 e.2 acc) []

theorem mem_insert {k : String} {a : α} {e : String × α}
    {l : List (String × α)} (h : e ∈ insert k a l) :
    e = (k, a) ∨ e ∈ l := by
  induction l with
  | nil => simpa [insert] using h
  | cons x l ih =>
    obtain ⟨k', a'⟩ := x
    grind [insert]

theorem sorted_nil : Sorted ([] : List (String × α)) := List.Pairwise.nil

theorem sorted_insert {k : String} {a : α} {l : List (String × α)}
    (h : Sorted l) : Sorted (insert k a l) := by
  induction l with
  | nil => simp [insert, Sorted]
  | cons x l ih =>
    obtain ⟨k', a'⟩ := x
    simp only [Sorted, List.pairwise_cons] at h ih ⊢
    simp only [insert]
    split
    · next hk => grind [List.pairwise_cons]
    · split
      · next hk hk' => grind [List.pairwise_cons]
      · next hk hk' =>
        refine List.pairwise_cons.2 ⟨fun e he => ?_, ih h.2⟩
        rcases mem_insert he with rfl | he
        · grind
        · exact h.1 e he

theorem sorted_ofList (l : List (String × α)) : Sorted (ofList l) := by
  suffices H : ∀ (l acc : List (String × α)), Sorted acc →
      Sorted (l.foldl (fun acc e => insert e.1 e.2 acc) acc) from
    H l [] sorted_nil
  intro l
  induction l with
  | nil => exact fun acc h => h
  | cons x l ih => exact fun acc h => ih _ (sorted_insert h)

theorem find?_insert (k k' : String) (a : α) (l : List (String × α)) :
    find? k' (insert k a l) = if k' = k then some a else find? k' l := by
  induction l with
  | nil => simp [insert, find?]
  | cons x l ih =>
    obtain ⟨k₂, a₂⟩ := x
    grind [insert, find?]

theorem find?_eq_none_of_lt {k : String} {l : List (String × α)}
    (h : ∀ e ∈ l, k < e.1) : find? k l = none := by
  induction l with
  | nil => rfl
  | cons x l ih =>
    obtain ⟨k', a'⟩ := x
    simp only [List.forall_mem_cons] at h
    grind [find?]

theorem find?_eq_some_iff {k : String} {a : α} {l : List (String × α)}
    (h : Sorted l) : find? k l = some a ↔ (k, a) ∈ l := by
  induction l with
  | nil => simp [find?]
  | cons x l ih =>
    obtain ⟨k', a'⟩ := x
    simp only [Sorted, List.pairwise_cons] at h ih
    grind [find?]

theorem eq_of_find?_eq {l l' : List (String × α)} (h : Sorted l)
    (h' : Sorted l') (H : ∀ k, find? k l = find? k l') : l = l' := by
  induction l generalizing l' with
  | nil =>
    cases l' with
    | nil => rfl
    | cons x l' => have := H x.1; simp [find?] at this
  | cons x l ih =>
    cases l' with
    | nil => have := H x.1; simp [find?] at this
    | cons y l' =>
      obtain ⟨k, a⟩ := x
      obtain ⟨k', a'⟩ := y
      simp only [Sorted, List.pairwise_cons] at h h' ih
      have hk : k = k' := by
        have h1 := H k
        have h2 := H k'
        have e1 := find?_eq_none_of_lt (k := k) (l := l')
        have e2 := find?_eq_none_of_lt (k := k') (l := l)
        simp only [find?] at h1 h2
        grind
      subst hk
      have ha : a = a' := by have := H k; simpa [find?] using this
      subst ha
      refine congrArg _ (ih h.2 h'.2 fun q => ?_)
      have e1 := find?_eq_none_of_lt (k := k) (l := l')
      have e2 := find?_eq_none_of_lt (k := k) (l := l)
      have h1 := H q
      simp only [find?] at h1
      grind

end Entries

/-! ### Dictionaries -/

/-- A dictionary: entries whose keys increase strictly. -/
structure Dict (α : Type u) where
  entries : List (String × α)
  sorted : Entries.Sorted entries

namespace Dict

variable {α : Type u} {β : Type v}

instance [DecidableEq α] : DecidableEq (Dict α) := fun a b =>
  decidable_of_iff (a.entries = b.entries)
    ⟨fun h => by cases a; cases b; simp_all, fun h => h ▸ rfl⟩

/-- The dictionary without entries. -/
def empty : Dict α := ⟨[], Entries.sorted_nil⟩

instance : Inhabited (Dict α) := ⟨empty⟩

/-- A dictionary from entries in any order; of two with one key the
later one stays. -/
def ofList (l : List (String × α)) : Dict α :=
  ⟨Entries.ofList l, Entries.sorted_ofList l⟩

/-- Adds an entry, or replaces the one with the same key. -/
def insert (d : Dict α) (k : String) (a : α) : Dict α :=
  ⟨Entries.insert k a d.entries, Entries.sorted_insert d.sorted⟩

/-- Looks a key up. -/
def find? (d : Dict α) (k : String) : Option α :=
  Entries.find? k d.entries

/-- Whether a key has an entry. -/
def contains (d : Dict α) (k : String) : Bool :=
  (d.find? k).isSome

/-- The keys, in order. -/
def keys (d : Dict α) : List String :=
  d.entries.map (·.1)

/-- The number of entries. -/
def size (d : Dict α) : Nat :=
  d.entries.length

/-- All entries but the one of a key. -/
def erase (d : Dict α) (k : String) : Dict α :=
  ⟨d.entries.filter fun e => e.1 ≠ k, d.sorted.filter _⟩

theorem eq_of_entries_eq {d d' : Dict α} (h : d.entries = d'.entries) :
    d = d' := by
  cases d; cases d'; simp_all

theorem ext_find? {d d' : Dict α} (h : ∀ k, d.find? k = d'.find? k) :
    d = d' :=
  eq_of_entries_eq (Entries.eq_of_find?_eq d.sorted d'.sorted h)

@[simp]
theorem find?_empty (k : String) : (empty : Dict α).find? k = none := rfl

@[simp, grind =]
theorem find?_insert (d : Dict α) (k k' : String) (a : α) :
    (d.insert k a).find? k' = if k' = k then some a else d.find? k' :=
  Entries.find?_insert k k' a d.entries

theorem find?_eq_some_iff {d : Dict α} {k : String} {a : α} :
    d.find? k = some a ↔ (k, a) ∈ d.entries :=
  Entries.find?_eq_some_iff d.sorted

@[simp, grind =]
theorem find?_erase (d : Dict α) (k k' : String) :
    (d.erase k).find? k' = if k' = k then none else d.find? k' := by
  refine Option.ext fun a => ?_
  have h := find?_eq_some_iff (d := d.erase k) (k := k') (a := a)
  have h' := find?_eq_some_iff (d := d) (k := k') (a := a)
  simp only [erase, List.mem_filter] at h
  grind [erase]

theorem contains_eq_true_iff {d : Dict α} {k : String} :
    d.contains k = true ↔ k ∈ d.keys := by
  simp only [contains, keys, Option.isSome_iff_exists, List.mem_map]
  constructor
  · rintro ⟨a, ha⟩
    exact ⟨(k, a), find?_eq_some_iff.1 ha, rfl⟩
  · rintro ⟨⟨k', a⟩, ha, rfl⟩
    exact ⟨a, find?_eq_some_iff.2 ha⟩

theorem keys_pairwise (d : Dict α) : d.keys.Pairwise (· < ·) :=
  List.pairwise_map.2 d.sorted

/-- Putting a removed entry back restores the dictionary. -/
theorem insert_erase {d : Dict α} {k : String} {a : α}
    (h : d.find? k = some a) : (d.erase k).insert k a = d :=
  ext_find? fun k' => by grind

/-- Removing an entry that was put in gives the rest back. -/
theorem erase_insert {d : Dict α} {k : String} (a : α)
    (h : d.find? k = none) : (d.insert k a).erase k = d :=
  ext_find? fun k' => by grind

end Dict

end RemoteOps
