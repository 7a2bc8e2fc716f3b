/-
Which sources are accepted, and what is made of them.

A setting is written as an optional sign and decimal digits, with white
space around.  It has to be positive and to fit into 64 bits with a sign,
and the page size also into 32 bits.  The first setting that is not right
is reported; only if all of them are right, a page size that is too large.

* `Config.Denotes`: the texts that are written for an integer;
* `Config.readInt?_trim_eq_some_iff`: exactly these are read, as this
  integer;
* `Config.requirePositive_eq_ok_iff`,
  `Config.requirePositive_eq_error_iff`: what is made of a setting;
* `Config.given_or_firstFault`: all settings are right, or there is a
  first one that is not;
* `Config.readsSource`: what is made of a source.
-/
import Mathlib.Data.Nat.Digits.Defs
import Mathlib.Data.List.DropRight
import Mathlib.Order.WellFounded
import RemoteOps.Config

namespace RemoteOps

namespace Blank

/-! ### White space around a text -/

lemma toList_trim (s : String) :
    (trim s).toList = (s.toList.dropWhile isBlank).rdropWhile isBlank := by
  rw [trim, String.toList_ofList, List.rdropWhile]

/-- A text is what trimming leaves of it, with white space around. -/
lemma exists_trim (s : String) : ∃ left right,
    s.toList = left ++ (trim s).toList ++ right
      ∧ (∀ c ∈ left, isBlank c = true) ∧ ∀ c ∈ right, isBlank c = true := by
  set rest := s.toList.dropWhile isBlank with hrest
  refine ⟨s.toList.takeWhile isBlank, rest.rtakeWhile isBlank, ?_,
    fun c hc => List.mem_takeWhile_imp hc,
    fun c hc => List.mem_rtakeWhile_imp hc⟩
  rw [toList_trim, ← hrest, List.append_assoc,
    List.rdropWhile_append_rtakeWhile, hrest,
    List.takeWhile_append_dropWhile]

lemma dropWhile_append {l : List Char} (hne : l ≠ [])
    (hl : ∀ c ∈ l, isBlank c = false) (l' : List Char) :
    (l ++ l').dropWhile isBlank = l ++ l' := by
  obtain ⟨c, l, rfl⟩ := List.exists_cons_of_ne_nil hne
  rw [List.cons_append, List.dropWhile_cons_of_neg]
  simp [hl c List.mem_cons_self]

/-- Trimming takes white space away from around a text that has none. -/
lemma toList_trim_of_split {s : String} {left cs right : List Char}
    (hs : s.toList = left ++ cs ++ right)
    (hleft : ∀ c ∈ left, isBlank c = true)
    (hright : ∀ c ∈ right, isBlank c = true) (hne : cs ≠ [])
    (hcs : ∀ c ∈ cs, isBlank c = false) : (trim s).toList = cs := by
  have hrest : s.toList.dropWhile isBlank = cs ++ right := by
    rw [hs, List.append_assoc, List.dropWhile_append_of_pos hleft,
      dropWhile_append hne hcs]
  have hback := dropWhile_append (List.reverse_ne_nil_iff.2 hne)
    (fun c hc => hcs c (List.mem_reverse.1 hc)) []
  rw [List.append_nil] at hback
  rw [toList_trim, hrest, List.rdropWhile, List.reverse_append,
    List.dropWhile_append_of_pos fun c hc =>
      hright c (List.mem_reverse.1 hc), hback, List.reverse_reverse]

end Blank

namespace Config

/-! ### Integers as they are written -/

/-- Decimal digits, one or more. -/
def Digits (ds : List Char) : Prop :=
  ds ≠ [] ∧ ∀ c ∈ ds, '0' ≤ c ∧ c ≤ '9'

/-- The value of decimal digits by their positions. -/
def value (ds : List Char) : Nat :=
  Nat.ofDigits 10 (ds.reverse.map fun c => c.toNat - '0'.toNat)

/-- Digits after an optional sign, with the integer that they stand
for. -/
inductive Numeral : List Char → Int → Prop where
  | plain {ds : List Char} (h : Digits ds) : Numeral ds (value ds)
  | plus {ds : List Char} (h : Digits ds) : Numeral ('+' :: ds) (value ds)
  | minus {ds : List Char} (h : Digits ds) :
    Numeral ('-' :: ds) (-(value ds : Int))

/-- A numeral with white space around. -/
inductive Denotes (raw : String) (z : Int) : Prop where
  | intro {left cs right : List Char}
    (split : raw.toList = left ++ cs ++ right)
    (left_blank : ∀ c ∈ left, Blank.isBlank c = true)
    (right_blank : ∀ c ∈ right, Blank.isBlank c = true)
    (numeral : Numeral cs z)

variable {cs ds : List Char} {c : Char} {n : Nat} {z : Int} {raw : String}

lemma isDigit_iff : isDigit c = true ↔ '0' ≤ c ∧ c ≤ '9' := by
  simp [isDigit]

lemma digitsValue_eq_value (ds : List Char) :
    digitsValue ds = value ds := by
  induction ds using List.reverseRecOn with
  | nil => rfl
  | append_singleton ds c ih =>
    have hdigits : digitsValue (ds ++ [c])
        = digitsValue ds * 10 + (c.toNat - 48) := by
      rw [digitsValue, List.foldl_append]
      rfl
    have hvalue : value (ds ++ [c]) = (c.toNat - 48) + 10 * value ds := by
      rw [value, List.reverse_append, List.reverse_singleton,
        List.singleton_append, List.map_cons, Nat.ofDigits_cons]
      rfl
    omega

lemma readNat?_eq_some_iff :
    readNat? ds = some n ↔ Digits ds ∧ n = value ds := by
  have hall : ds.all isDigit = true ↔ ∀ c ∈ ds, '0' ≤ c ∧ c ≤ '9' := by
    simp only [List.all_eq_true, isDigit_iff]
  rw [readNat?, Digits, ← hall, ← digitsValue_eq_value]
  cases ds with
  | nil => simp
  | cons c ds =>
    by_cases h : (c :: ds).all isDigit = true
    · simp [h, eq_comm]
    · simp [h]

/-- A sign is no digit. -/
lemma Digits.ne_sign (h : Digits (c :: ds)) : c ≠ '+' ∧ c ≠ '-' := by
  have hc := h.2 c List.mem_cons_self
  constructor
  · rintro rfl
    exact absurd hc.1 (by decide)
  · rintro rfl
    exact absurd hc.1 (by decide)

/-- Exactly the numerals are read, as what they stand for. -/
lemma readSigned?_eq_some_iff : readSigned? cs = some z ↔ Numeral cs z := by
  constructor
  · intro h
    cases cs with
    | nil => cases h
    | cons c ds =>
      rw [readSigned?] at h
      split at h
      · next hc =>
        obtain ⟨n, hn, rfl⟩ := Option.map_eq_some_iff.1 h
        obtain ⟨hds, rfl⟩ := readNat?_eq_some_iff.1 hn
        exact hc ▸ .plus hds
      · split at h
        · next hc =>
          obtain ⟨n, hn, rfl⟩ := Option.map_eq_some_iff.1 h
          obtain ⟨hds, rfl⟩ := readNat?_eq_some_iff.1 hn
          exact hc ▸ .minus hds
        · obtain ⟨n, hn, rfl⟩ := Option.map_eq_some_iff.1 h
          obtain ⟨hds, rfl⟩ := readNat?_eq_some_iff.1 hn
          exact .plain hds
  · intro h
    cases h with
    | @plain ds hds =>
      obtain ⟨c, ds, rfl⟩ := List.exists_cons_of_ne_nil hds.1
      rw [readSigned?, if_neg hds.ne_sign.1, if_neg hds.ne_sign.2,
        readNat?_eq_some_iff.2 ⟨hds, rfl⟩]
      rfl
    | plus hds =>
      rw [readSigned?, if_pos rfl, readNat?_eq_some_iff.2 ⟨hds, rfl⟩]
      rfl
    | minus hds =>
      have hne : '-' ≠ '+' := by decide
      rw [readSigned?, if_neg hne, if_pos rfl,
        readNat?_eq_some_iff.2 ⟨hds, rfl⟩]
      rfl

lemma Digits.not_blank (h : Digits ds) :
    ∀ c ∈ ds, Blank.isBlank c = false := by
  intro c hc
  obtain ⟨hlow, hhigh⟩ := h.2 c hc
  have hlow' : 48 ≤ c.toNat := hlow
  have hhigh' : c.toNat ≤ 57 := hhigh
  simp only [Blank.isBlank, Blank.ranges, List.any_cons, List.any_nil,
    Bool.or_false, Bool.or_eq_false_iff, Bool.and_eq_false_iff,
    decide_eq_false_iff_not]
  omega

/-- There is no white space in a numeral. -/
lemma Numeral.not_blank (h : Numeral cs z) :
    cs ≠ [] ∧ ∀ c ∈ cs, Blank.isBlank c = false := by
  cases h with
  | plain hds => exact ⟨hds.1, hds.not_blank⟩
  | plus hds =>
    exact ⟨List.cons_ne_nil _ _,
      List.forall_mem_cons.2 ⟨by decide, hds.not_blank⟩⟩
  | minus hds =>
    exact ⟨List.cons_ne_nil _ _,
      List.forall_mem_cons.2 ⟨by decide, hds.not_blank⟩⟩

lemma denotes_iff_numeral :
    Denotes raw z ↔ Numeral (Blank.trim raw).toList z := by
  constructor
  · rintro ⟨hsplit, hleft, hright, hn⟩
    obtain ⟨hne, hcs⟩ := hn.not_blank
    rwa [Blank.toList_trim_of_split hsplit hleft hright hne hcs]
  · intro hn
    obtain ⟨left, right, hsplit, hleft, hright⟩ := Blank.exists_trim raw
    exact ⟨hsplit, hleft, hright, hn⟩

/-- Exactly the numerals that fit into 64 bits are read, with white space
around. -/
theorem readInt?_trim_eq_some_iff : readInt? (Blank.trim raw) = some z
    ↔ Denotes raw z ∧ -2 ^ 63 ≤ z ∧ z < 2 ^ 63 := by
  have hfits : fits64 z = true ↔ -2 ^ 63 ≤ z ∧ z < 2 ^ 63 := by
    simp [fits64]
  rw [readInt?, Option.filter_eq_some_iff, readSigned?_eq_some_iff, hfits,
    denotes_iff_numeral]

/-! ### One setting -/

variable {source : String → Option String} {s : Setting} {e : ConfigError}
  {config : Config}

/-- A source has a setting that is positive and fits into 64 bits with a
sign. -/
inductive Gives (source : String → Option String) (s : Setting) (n : Nat) :
    Prop where
  | intro {raw : String} (found : source s.key = some raw)
    (denotes : Denotes raw n) (pos : 1 ≤ n) (le : n ≤ 2 ^ 63 - 1)

/-- A source does not have a setting, or not an integer that fits into 64
bits with a sign, or not a positive one. -/
inductive Faulty (source : String → Option String) (s : Setting) :
    ConfigError → Prop where
  | missing (h : source s.key = none) : Faulty source s (.missing s)
  | invalid {raw : String} (found : source s.key = some raw)
    (unfit : ∀ z, Denotes raw z → z < -2 ^ 63 ∨ 2 ^ 63 ≤ z) :
    Faulty source s (.invalid s raw)
  | notPositive {raw : String} {z : Int} (found : source s.key = some raw)
    (denotes : Denotes raw z) (min : -2 ^ 63 ≤ z) (le : z ≤ 0) :
    Faulty source s (.notPositive s raw)

lemma requirePositive_of_gives (h : Gives source s n) :
    requirePositive source s = .ok n := by
  obtain ⟨found, denotes, pos, le⟩ := h
  have hread := readInt?_trim_eq_some_iff.2 ⟨denotes, by omega, by omega⟩
  have hpos : ¬ (n : Int) ≤ 0 := by omega
  simp only [requirePositive, found, hread, if_neg hpos]
  rfl

lemma requirePositive_of_faulty (h : Faulty source s e) :
    requirePositive source s = .error e := by
  cases h with
  | missing h => rw [requirePositive, h]
  | @invalid raw found unfit =>
    have hread : readInt? (Blank.trim raw) = none := by
      cases hz : readInt? (Blank.trim raw) with
      | none => rfl
      | some z =>
        obtain ⟨denotes, hmin, hlt⟩ := readInt?_trim_eq_some_iff.1 hz
        have := unfit z denotes
        omega
    simp only [requirePositive, found, hread]
  | notPositive found denotes min le =>
    have hread := readInt?_trim_eq_some_iff.2 ⟨denotes, min, by omega⟩
    simp only [requirePositive, found, hread, if_pos le]

/-- Every setting is right or not. -/
lemma gives_or_faulty (source : String → Option String) (s : Setting) :
    (∃ n, Gives source s n) ∨ ∃ e, Faulty source s e := by
  cases hraw : source s.key with
  | none => exact .inr ⟨_, .missing hraw⟩
  | some raw =>
    cases hread : readInt? (Blank.trim raw) with
    | none =>
      refine .inr ⟨_, .invalid hraw fun z hz => ?_⟩
      by_contra hfits
      have hsome := readInt?_trim_eq_some_iff.2
        ⟨hz, by omega, by omega⟩
      rw [hread] at hsome
      cases hsome
    | some z =>
      obtain ⟨denotes, hmin, hlt⟩ := readInt?_trim_eq_some_iff.1 hread
      by_cases hz : z ≤ 0
      · exact .inr ⟨_, .notPositive hraw denotes hmin hz⟩
      · obtain ⟨n, rfl⟩ := Int.eq_ofNat_of_zero_le (a := z) (by omega)
        exact .inl ⟨n, hraw, denotes, by omega, by omega⟩

/-- Exactly a positive setting is accepted, as it is. -/
lemma requirePositive_eq_ok_iff :
    requirePositive source s = .ok n ↔ Gives source s n := by
  refine ⟨fun h => ?_, requirePositive_of_gives⟩
  obtain ⟨n', hn⟩ | ⟨e, he⟩ := gives_or_faulty source s
  · rw [requirePositive_of_gives hn] at h
    exact Except.ok.inj h ▸ hn
  · rw [requirePositive_of_faulty he] at h
    cases h

/-- Any other one is refused for its own fault. -/
lemma requirePositive_eq_error_iff :
    requirePositive source s = .error e ↔ Faulty source s e := by
  refine ⟨fun h => ?_, requirePositive_of_faulty⟩
  obtain ⟨n, hn⟩ | ⟨e', he⟩ := gives_or_faulty source s
  · rw [requirePositive_of_gives hn] at h
    cases h
  · rw [requirePositive_of_faulty he] at h
    exact Except.error.inj h ▸ he

end Config

/-! ### All settings -/

/-- The place of a setting in the order in which they are read. -/
def Setting.place : Setting → Nat
  | interval => 0
  | resultSize => 1
  | shutdownTimeout => 2
  | handlersShutdownTimeout => 3

namespace Config

variable {source : String → Option String} {e : ConfigError}
  {config : Config}

/-- A source has all settings. -/
def Given (source : String → Option String) (n : Setting → Nat) : Prop :=
  ∀ s, Gives source s (n s)

/-- The fault of the first setting that is not right. -/
inductive FirstFault (source : String → Option String) (e : ConfigError) :
    Prop where
  | intro (s : Setting)
    (earlier : ∀ s', s'.place < s.place → ∃ n, Gives source s' n)
    (fault : Faulty source s e)

/-- The settings as they are used: the interval in seconds, the bounds in
milliseconds. -/
def ofNumbers (n : Setting → Nat) : Config :=
  ⟨.ofSeconds (n .interval), n .resultSize, .ofMillis (n .shutdownTimeout),
    .ofMillis (n .handlersShutdownTimeout)⟩

/-- All settings are right, or there is a first one that is not. -/
lemma given_or_firstFault (source : String → Option String) :
    (∃ n, Given source n) ∨ ∃ e, FirstFault source e := by
  by_cases h : ∀ s, ∃ n, Gives source s n
  · exact .inl (Classical.axiomOfChoice h)
  · -- of those that are not right, the one with the least place
    obtain ⟨s₀, hs₀⟩ := not_forall.1 h
    obtain ⟨s, hs, hmin⟩ := (measure Setting.place).wf.has_min
      (fun s => ¬ ∃ n, Gives source s n) ⟨s₀, hs₀⟩
    obtain ⟨e, he⟩ := (gives_or_faulty source s).resolve_left hs
    exact .inr ⟨e, s, fun s' hlt => not_not.1 fun hs' => hmin s' hs' hlt,
      he⟩

/-- Of a source that has all settings, only the page size can be wrong. -/
lemma ofSource_of_given {n : Setting → Nat} (h : Given source n) :
    ofSource source = if n .resultSize ≤ 2 ^ 32 - 1 then .ok (ofNumbers n)
      else .error (.invalid .resultSize (toString (n .resultSize))) := by
  have hread : ∀ s, requirePositive source s = .ok (n s) :=
    fun s => requirePositive_eq_ok_iff.2 (h s)
  simp only [ofSource, hread, bind, Except.bind]
  by_cases hle : n .resultSize ≤ 2 ^ 32 - 1
  · rw [if_pos hle, if_neg (by omega)]
    rfl
  · rw [if_neg hle, if_pos (by omega)]
    rfl

/-- Reading ends with the first setting that is not right. -/
lemma ofSource_of_firstFault (h : FirstFault source e) :
    ofSource source = .error e := by
  obtain ⟨s, earlier, fault⟩ := h
  have hs := requirePositive_eq_error_iff.2 fault
  have hearlier : ∀ s', s'.place < s.place →
      ∃ n, requirePositive source s' = .ok n := by
    intro s' hlt
    obtain ⟨n, hn⟩ := earlier s' hlt
    exact ⟨n, requirePositive_eq_ok_iff.2 hn⟩
  cases s with
  | interval => simp only [ofSource, hs, bind, Except.bind]
  | resultSize =>
    obtain ⟨_, hi⟩ := hearlier .interval (by decide)
    simp only [ofSource, hi, hs, bind, Except.bind]
  | shutdownTimeout =>
    obtain ⟨_, hi⟩ := hearlier .interval (by decide)
    obtain ⟨_, hr⟩ := hearlier .resultSize (by decide)
    simp only [ofSource, hi, hr, hs, bind, Except.bind]
  | handlersShutdownTimeout =>
    obtain ⟨_, hi⟩ := hearlier .interval (by decide)
    obtain ⟨_, hr⟩ := hearlier .resultSize (by decide)
    obtain ⟨_, ht⟩ := hearlier .shutdownTimeout (by decide)
    simp only [ofSource, hi, hr, ht, hs, bind, Except.bind]

/-- What is made of a source. -/
structure ReadsSource (source : String → Option String) : Prop where
  /-- Settings are accepted exactly if all of them are positive and fit, and
  with the numbers that are written. -/
  ok : ∀ config, ofSource source = .ok config
    ↔ ∃ n, Given source n ∧ n .resultSize ≤ 2 ^ 32 - 1
      ∧ config = ofNumbers n
  valid : ∀ config, ofSource source = .ok config → config.validate = .ok ()
  /-- The first setting that is not right is reported, and a page size that
  is too large only if there is none. -/
  error : ∀ e, ofSource source = .error e
    ↔ FirstFault source e
      ∨ ∃ n, Given source n ∧ 2 ^ 32 - 1 < n .resultSize
        ∧ e = .invalid .resultSize (toString (n .resultSize))

/-- Exactly positive integers in range are accepted, and otherwise the first
fault is reported. -/
theorem readsSource (source : String → Option String) :
    ReadsSource source := by
  refine ⟨fun config => ⟨fun h => ?_, ?_⟩, fun config => validate_ofSource,
    fun e => ⟨fun h => ?_, ?_⟩⟩
  · obtain ⟨n, hn⟩ | ⟨e, he⟩ := given_or_firstFault source
    · rw [ofSource_of_given hn] at h
      split at h
      · next hle => exact ⟨n, hn, hle, (Except.ok.inj h).symm⟩
      · cases h
    · rw [ofSource_of_firstFault he] at h
      cases h
  · rintro ⟨n, hn, hle, rfl⟩
    rw [ofSource_of_given hn, if_pos hle]
  · obtain ⟨n, hn⟩ | ⟨e', he⟩ := given_or_firstFault source
    · rw [ofSource_of_given hn] at h
      split at h
      · cases h
      · next hlt =>
        exact .inr ⟨n, hn, Nat.not_le.1 hlt, (Except.error.inj h).symm⟩
    · rw [ofSource_of_firstFault he] at h
      exact .inl (Except.error.inj h ▸ he)
  · rintro (he | ⟨n, hn, hlt, rfl⟩)
    · exact ofSource_of_firstFault he
    · rw [ofSource_of_given hn, if_neg (Nat.not_le.2 hlt)]

/-- A page size that is too large gives way to a bound that is zero. -/
example : ofSource (fun key =>
      some (if key = Setting.handlersShutdownTimeout.key then " -0"
        else "+4294967296"))
    = .error (.notPositive .handlersShutdownTimeout " -0") := by
  decide

end Config

end RemoteOps
