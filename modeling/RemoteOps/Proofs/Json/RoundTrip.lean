/-
JSON values in compact text.

A reader gives values whose objects are in order, whose integers are in
range, and whose containers are not nested deeper than it was told to
read.  Such a value is read back from its compact text, whatever follows
it, if there is no double in it.

* `Json.Fits`, `Json.Integral`: the range and the depth of a value, and
  whether all its numbers are integers;
* `Json.Legible`: a value that a reader may give;
* `Json.legible_of_readValue`: what a reader gives;
* `Json.readValue_renderChars`: what is written reads back;
* `Json.parse_render_of_parse`: so does everything that was read.
-/
import RemoteOps.Json.Decode
import RemoteOps.Json.Reader
import RemoteOps.Proofs.Json.Atoms

namespace RemoteOps

/-! ### Entries in order -/

namespace Entries

variable {α : Type} {l : List (String × α)}

lemma mem_of_mem_ofList {e : String × α} (he : e ∈ ofList l) : e ∈ l := by
  suffices H : ∀ (l acc : List (String × α)),
      e ∈ l.foldl (fun acc e => insert e.1 e.2 acc) acc → e ∈ acc ∨ e ∈ l by
    exact (H l [] he).resolve_left List.not_mem_nil
  intro l
  induction l with
  | nil => exact fun acc h => .inl h
  | cons x l ih =>
    intro acc h
    rcases ih _ h with h | h
    · rcases mem_insert h with rfl | h
      · exact .inr (.head l)
      · exact .inl h
    · exact .inr (.tail x h)

/-- An entry whose key is the largest goes to the end. -/
lemma insert_eq_append {k : String} {a : α} (h : ∀ e ∈ l, e.1 < k) :
    insert k a l = l ++ [(k, a)] := by
  induction l with
  | nil => rfl
  | cons x l ih =>
    have hx : x.1 < k := h x (.head l)
    have hne : k ≠ x.1 := fun hk => String.lt_irrefl k (hk ▸ hx)
    rw [insert, if_neg (String.lt_asymm hx), if_neg hne,
      ih fun e he => h e (.tail x he)]
    rfl

/-- Entries in order stay as they are. -/
lemma ofList_eq_self (h : Sorted l) : ofList l = l := by
  suffices H : ∀ (l acc : List (String × α)), Sorted (acc ++ l) →
      l.foldl (fun acc e => insert e.1 e.2 acc) acc = acc ++ l from
    H l [] h
  intro l
  induction l with
  | nil => exact fun acc _ => (List.append_nil acc).symm
  | cons x l ih =>
    intro acc h
    have hlast : ∀ e ∈ acc, e.1 < x.1 := fun e he =>
      (List.pairwise_append.1 h).2.2 e he x (.head l)
    rw [List.foldl_cons, insert_eq_append hlast]
    have hassoc : acc ++ [(x.1, x.2)] ++ l = acc ++ x :: l := by simp
    rw [ih _ (by rw [hassoc]; exact h), hassoc]

end Entries

namespace Json

/-! ### Range, depth and doubles -/

mutual

/-- The integers in a value are in range, and its containers can be
opened when so many are left. -/
def Fits : Nat → Json → Prop
  | _, int z => -0x8000000000000000 ≤ z ∧ z ≤ maxSignificand
  | depth, array l => 1 < depth ∧ FitsElements (depth - 1) l
  | depth, object l => 1 < depth ∧ FitsMembers (depth - 1) l
  | _, _ => True

/-- All values of a list fit. -/
def FitsElements : Nat → List Json → Prop
  | _, [] => True
  | depth, a :: l => Fits depth a ∧ FitsElements depth l

/-- All values of a list of members fit. -/
def FitsMembers : Nat → List (String × Json) → Prop
  | _, [] => True
  | depth, (_, a) :: l => Fits depth a ∧ FitsMembers depth l

end

mutual

/-- There is no double in a value. -/
def Integral : Json → Prop
  | double _ => False
  | array l => IntegralElements l
  | object l => IntegralMembers l
  | _ => True

/-- There is no double in a list of values. -/
def IntegralElements : List Json → Prop
  | [] => True
  | a :: l => Integral a ∧ IntegralElements l

/-- There is no double in a list of members. -/
def IntegralMembers : List (String × Json) → Prop
  | [] => True
  | (_, a) :: l => Integral a ∧ IntegralMembers l

end

/-- A value that a reader may give at a depth: it is in order and fits. -/
structure Legible (depth : Nat) (a : Json) : Prop where
  tidy : a.Tidy
  fits : a.Fits depth

lemma fitsMembers_iff {depth : Nat} {l : List (String × Json)} :
    FitsMembers depth l ↔ ∀ e ∈ l, Fits depth e.2 := by
  induction l with
  | nil => simp [FitsMembers]
  | cons e l ih => rw [FitsMembers, ih, List.forall_mem_cons]

lemma integralMembers_iff {l : List (String × Json)} :
    IntegralMembers l ↔ ∀ e ∈ l, Integral e.2 := by
  induction l with
  | nil => simp [IntegralMembers]
  | cons e l ih => rw [IntegralMembers, ih, List.forall_mem_cons]

/-! ### What is read -/

lemma lt_of_openContainer {depth d : Nat} (h : openContainer depth = .ok d) :
    1 < depth ∧ d = depth - 1 := by
  rw [openContainer] at h
  split at h
  · cases h
  · next hlt => exact ⟨Nat.lt_of_not_le hlt, (Except.ok.inj h).symm⟩

lemma openContainer_of_lt {depth : Nat} (h : 1 < depth) :
    openContainer depth = .ok (depth - 1) :=
  if_neg (Nat.not_le.2 h)

/-- An integer that was read is in range, unless it is a double. -/
lemma legible_integer (negative : Bool) {n : Nat} (hn : n ≤ maxSignificand)
    (depth : Nat) :
    (integer negative n).Legible depth := by
  have hpos : (n : Int) ≤ maxSignificand := Int.ofNat_le.2 hn
  unfold integer
  split
  · exact ⟨trivial, by rw [Fits]; omega⟩
  · split
    · exact ⟨trivial, trivial⟩
    · split
      · refine ⟨trivial, ?_⟩
        rw [Fits]
        omega
      · split <;> exact ⟨trivial, trivial⟩

lemma legible_of_readNumber {negative : Bool} {cs rest : List Char}
    {a : Json} (h : readNumber negative cs = .ok (a, rest)) (depth : Nat) :
    a.Legible depth := by
  rcases readNumber_cases h with ⟨x, rfl⟩ | ⟨n, hn, rfl⟩
  · exact ⟨trivial, trivial⟩
  · exact legible_integer negative hn depth

/-- Members in any order make an object in order. -/
lemma legible_ofMembers {depth : Nat} {l : List (String × Json)}
    (hd : 1 < depth) (ht : TidyMembers l) (hf : FitsMembers (depth - 1) l) :
    (ofMembers l).Legible depth := by
  refine ⟨⟨Entries.sorted_ofList l, ?_⟩, hd, ?_⟩
  · exact tidyMembers_iff.2 fun e he =>
      tidyMembers_iff.1 ht e (Entries.mem_of_mem_ofList he)
  · exact fitsMembers_iff.2 fun e he =>
      fitsMembers_iff.1 hf e (Entries.mem_of_mem_ofList he)

mutual

/-- A value that is read is in order, in range, and as deep as allowed. -/
theorem legible_of_readValue : ∀ (fuel : Nat) {depth : Nat}
    {cs rest : List Char} {a : Json},
    readValue fuel depth cs = .ok (a, rest) → a.Legible depth
  | 0, _, _, _, _, h => by cases h
  | fuel + 1, depth, cs, rest, a, h => by
    unfold readValue at h
    split at h
    · cases h
    · obtain ⟨⟨⟨⟩, cs⟩, -, h⟩ := exists_of_bind_eq_ok h
      cases h
      exact ⟨trivial, trivial⟩
    · obtain ⟨⟨⟨⟩, cs⟩, -, h⟩ := exists_of_bind_eq_ok h
      cases h
      exact ⟨trivial, trivial⟩
    · obtain ⟨⟨⟨⟩, cs⟩, -, h⟩ := exists_of_bind_eq_ok h
      cases h
      exact ⟨trivial, trivial⟩
    · obtain ⟨⟨s, cs⟩, -, h⟩ := exists_of_bind_eq_ok h
      cases h
      exact ⟨trivial, trivial⟩
    · obtain ⟨d, hd, h⟩ := exists_of_bind_eq_ok h
      obtain ⟨⟨l, cs⟩, hl, h⟩ := exists_of_bind_eq_ok h
      cases h
      obtain ⟨hlt, rfl⟩ := lt_of_openContainer hd
      obtain ⟨ht, hf⟩ := legible_of_readElements fuel hl
      exact ⟨ht, hlt, hf⟩
    · exact legible_of_readNumber h depth
    · split at h
      · obtain ⟨d, hd, h⟩ := exists_of_bind_eq_ok h
        obtain ⟨⟨l, cs⟩, hl, h⟩ := exists_of_bind_eq_ok h
        cases h
        obtain ⟨hlt, rfl⟩ := lt_of_openContainer hd
        obtain ⟨ht, hf⟩ := legible_of_readMembers fuel hl
        exact legible_ofMembers hlt ht hf
      · split at h
        · exact legible_of_readNumber h depth
        · cases h

/-- So are the elements of an array. -/
theorem legible_of_readElements : ∀ (fuel : Nat) {depth : Nat}
    {first : Bool} {cs rest : List Char} {l : List Json},
    readElements fuel depth first cs = .ok (l, rest) →
      TidyElements l ∧ FitsElements depth l
  | 0, _, _, _, _, _, h => by cases h
  | fuel + 1, depth, first, cs, rest, l, h => by
    unfold readElements at h
    obtain ⟨⟨more, cs⟩, -, h⟩ := exists_of_bind_eq_ok h
    cases more with
    | false =>
      cases h
      exact ⟨trivial, trivial⟩
    | true =>
      obtain ⟨⟨a, cs⟩, ha, h⟩ := exists_of_bind_eq_ok h
      obtain ⟨⟨l, cs⟩, hl, h⟩ := exists_of_bind_eq_ok h
      cases h
      obtain ⟨hta, hfa⟩ := legible_of_readValue fuel ha
      obtain ⟨htl, hfl⟩ := legible_of_readElements fuel hl
      exact ⟨⟨hta, htl⟩, hfa, hfl⟩

/-- And the members of an object, but for their order. -/
theorem legible_of_readMembers : ∀ (fuel : Nat) {depth : Nat}
    {first : Bool} {cs rest : List Char} {l : List (String × Json)},
    readMembers fuel depth first cs = .ok (l, rest) →
      TidyMembers l ∧ FitsMembers depth l
  | 0, _, _, _, _, _, h => by cases h
  | fuel + 1, depth, first, cs, rest, l, h => by
    unfold readMembers at h
    obtain ⟨⟨more, cs⟩, -, h⟩ := exists_of_bind_eq_ok h
    cases more with
    | false =>
      cases h
      exact ⟨trivial, trivial⟩
    | true =>
      obtain ⟨⟨k, cs⟩, -, h⟩ := exists_of_bind_eq_ok h
      obtain ⟨⟨⟨⟩, cs⟩, -, h⟩ := exists_of_bind_eq_ok h
      obtain ⟨⟨a, cs⟩, ha, h⟩ := exists_of_bind_eq_ok h
      obtain ⟨⟨l, cs⟩, hl, h⟩ := exists_of_bind_eq_ok h
      cases h
      obtain ⟨hta, hfa⟩ := legible_of_readValue fuel ha
      obtain ⟨htl, hfl⟩ := legible_of_readMembers fuel hl
      exact ⟨⟨hta, htl⟩, hfa, hfl⟩

end

/-! ### What is written -/

/-- A digit is neither a blank nor a bracket. -/
lemma plain_of_isDigit {c : Char} (hc : isDigit c = true) :
    isBlank c = false ∧ c ≠ ']' := by
  constructor
  · cases hb : isBlank c with
    | false => rfl
    | true =>
      simp only [isBlank, Bool.or_eq_true, decide_eq_true_eq] at hb
      rcases hb with ((rfl | rfl) | rfl) | rfl <;> cases hc
  · rintro rfl
    cases hc

/-- The text of a value begins with what is neither a blank nor the end of
an array. -/
lemma exists_renderChars (a : Json) (hi : a.Integral) :
    ∃ c cs, renderChars a = c :: cs ∧ isBlank c = false ∧ c ≠ ']' := by
  cases a with
  | null => exact ⟨_, _, rfl, rfl, by decide⟩
  | bool b => cases b <;> exact ⟨_, _, rfl, rfl, by decide⟩
  | double x => exact hi.elim
  | string s => exact ⟨_, _, rfl, rfl, by decide⟩
  | array l => cases l <;> exact ⟨_, _, rfl, rfl, by decide⟩
  | object l => cases l <;> exact ⟨_, _, rfl, rfl, by decide⟩
  | int z =>
    rw [renderChars, renderInt]
    split
    · exact ⟨_, _, rfl, rfl, by decide⟩
    · cases hds : Nat.toDigits 10 z.natAbs with
      | nil => exact absurd hds Nat.toDigits_ne_nil
      | cons c cs =>
        have hc : isDigit c = true :=
          isDigit_of_mem_toDigits (by rw [hds]; exact .head _)
        exact ⟨c, cs, rfl, plain_of_isDigit hc⟩

/-! The first character tells what is read. -/

lemma readValue_quote (fuel depth : Nat) (cs : List Char) :
    readValue (fuel + 1) depth ('"' :: cs)
      = readString cs >>= fun p => pure (string p.1, p.2) := rfl

lemma readValue_bracket (fuel depth : Nat) (cs : List Char) :
    readValue (fuel + 1) depth ('[' :: cs)
      = openContainer depth >>= fun depth =>
        readElements fuel depth true cs >>= fun p =>
        pure (array p.1, p.2) := rfl

lemma readValue_brace (fuel depth : Nat) (cs : List Char) :
    readValue (fuel + 1) depth (Char.ofNat 0x7b :: cs)
      = openContainer depth >>= fun depth =>
        readMembers fuel depth true cs >>= fun p =>
        pure (ofMembers p.1, p.2) := rfl

lemma readValue_digit {fuel depth : Nat} {c : Char} {cs : List Char}
    (hc : isDigit c = true) :
    readValue (fuel + 1) depth (c :: cs) = readNumber false (c :: cs) := by
  have hrange : 48 ≤ c.toNat ∧ c.toNat ≤ 57 := by simpa [isDigit] using hc
  have hcases : c.toNat = 48 ∨ c.toNat = 49 ∨ c.toNat = 50 ∨ c.toNat = 51
      ∨ c.toNat = 52 ∨ c.toNat = 53 ∨ c.toNat = 54 ∨ c.toNat = 55
      ∨ c.toNat = 56 ∨ c.toNat = 57 := by omega
  rcases hcases with h | h | h | h | h | h | h | h | h | h <;>
    rw [eq_ofNat h] <;> rfl

/-- An integer in range reads back. -/
lemma readValue_int {z : Int} (hz : -0x8000000000000000 ≤ z)
    (hz' : z ≤ maxSignificand) (fuel depth : Nat) {rest : List Char}
    (hr : EndsNumber rest) :
    readValue (fuel + 1) depth (renderInt z ++ rest) = .ok (int z, rest) := by
  have hmax : (maxSignificand : Int) = 0xffffffffffffffff := rfl
  rw [renderInt]
  split
  · next hneg =>
    have hread : readNumber true (Nat.toDigits 10 z.natAbs ++ rest)
        = .ok (int z, rest) := by
      rw [readNumber_toDigits true (by omega) hr, integer, if_neg (by simp),
        if_neg (by omega), if_pos (by omega)]
      have habs : -(z.natAbs : Int) = z := by omega
      rw [habs]
    exact hread
  · next hpos =>
    have hread : readNumber false (Nat.toDigits 10 z.natAbs ++ rest)
        = .ok (int z, rest) := by
      rw [readNumber_toDigits false (by omega) hr, integer, if_pos (by simp)]
      have habs : (z.natAbs : Int) = z := by omega
      rw [habs]
    cases hds : Nat.toDigits 10 z.natAbs with
    | nil => exact absurd hds Nat.toDigits_ne_nil
    | cons c cs =>
      have hc : isDigit c = true :=
        isDigit_of_mem_toDigits (by rw [hds]; exact .head _)
      rw [hds] at hread
      rw [List.cons_append, readValue_digit hc]
      exact hread

lemma readValue_string (s : String) (fuel depth : Nat) (rest : List Char) :
    readValue (fuel + 1) depth (renderString s ++ rest)
      = .ok (string s, rest) := by
  rw [renderString_append, readValue_quote, readString_escape, ok_bind]
  rfl

/-! ### Pieces of containers -/

section Pieces

variable {close c : Char} {cs : List Char}

lemma skipBlanks_cons (hb : isBlank c = false) :
    skipBlanks (c :: cs) = c :: cs := by
  rw [skipBlanks, List.dropWhile_cons, hb]
  rfl

/-- The first piece stands without a comma. -/
lemma readComma?_first (hb : isBlank c = false) (hc : c ≠ close) :
    readComma? close true (c :: cs) = .ok (true, c :: cs) := by
  rw [readComma?, skipBlanks_cons hb]
  simp [hc]

/-- Any other one stands after a comma. -/
lemma readComma?_next (hb : isBlank c = false) (hc : c ≠ close)
    (hcomma : ',' ≠ close) :
    readComma? close false (',' :: c :: cs) = .ok (true, c :: cs) := by
  rw [readComma?, skipBlanks_cons rfl]
  simp only [if_neg hcomma, skipBlanks_cons hb, if_neg hc]
  rfl

variable {fuel depth : Nat} {first : Bool} {rest text : List Char} {a : Json}

/-- One element more. -/
lemma readElements_cons {l : List Json}
    (hcomma : readComma? ']' first text = .ok (true, renderChars a ++ cs))
    (ha : readValue fuel depth (renderChars a ++ cs) = .ok (a, cs))
    (hl : readElements fuel depth false cs = .ok (l, rest)) :
    readElements (fuel + 1) depth first text = .ok (a :: l, rest) := by
  rw [readElements, hcomma, ok_bind]
  dsimp only
  rw [ha, ok_bind]
  dsimp only
  rw [hl, ok_bind]
  rfl

lemma readKey_renderString (k : String) (cs : List Char) :
    readKey (renderString k ++ cs) = .ok (k, cs) := by
  rw [renderString_append]
  exact readString_escape k cs

lemma readColon_cons (cs : List Char) :
    readColon (':' :: cs) = .ok ((), cs) := rfl

/-- One member more. -/
lemma readMembers_cons {k : String} {l : List (String × Json)}
    (hcomma : readComma? (Char.ofNat 0x7d) first text
      = .ok (true, renderString k ++ ':' :: (renderChars a ++ cs)))
    (ha : readValue fuel depth (renderChars a ++ cs) = .ok (a, cs))
    (hl : readMembers fuel depth false cs = .ok (l, rest)) :
    readMembers (fuel + 1) depth first text = .ok ((k, a) :: l, rest) := by
  rw [readMembers, hcomma, ok_bind]
  dsimp only
  rw [readKey_renderString, ok_bind]
  dsimp only
  rw [readColon_cons, ok_bind]
  dsimp only
  rw [ha, ok_bind]
  dsimp only
  rw [hl, ok_bind]
  rfl

/-- An array is read back if its elements are. -/
lemma readValue_array {l : List Json} (hd : 1 < depth)
    (hl : readElements fuel (depth - 1) true text = .ok (l, rest)) :
    readValue (fuel + 1) depth ('[' :: text) = .ok (array l, rest) := by
  rw [readValue_bracket, openContainer_of_lt hd, ok_bind, hl, ok_bind]
  rfl

/-- So is an object, if its members are in order. -/
lemma readValue_object {l : List (String × Json)} (hs : Entries.Sorted l)
    (hd : 1 < depth)
    (hl : readMembers fuel (depth - 1) true text = .ok (l, rest)) :
    readValue (fuel + 1) depth (Char.ofNat 0x7b :: text)
      = .ok (object l, rest) := by
  rw [readValue_brace, openContainer_of_lt hd, ok_bind, hl, ok_bind,
    ofMembers, Entries.ofList_eq_self hs]
  rfl

/-- What follows an element is not a number that goes on. -/
lemma endsNumber_elements (l : List Json) (rest : List Char) :
    EndsNumber (renderElements l ++ ']' :: rest) := by
  cases l <;> exact endsNumber_cons _ (by decide)

lemma endsNumber_members (l : List (String × Json)) (rest : List Char) :
    EndsNumber (renderMembers l ++ Char.ofNat 0x7d :: rest) := by
  cases l <;> exact endsNumber_cons _ (by decide)

end Pieces

/-! ### Values -/

mutual

/-- A value that is in order and in range and has no double is read back
from its text, whatever follows that does not go on with a number. -/
theorem readValue_renderChars : ∀ (a : Json) {fuel depth : Nat}
    {rest : List Char}, a.Legible depth → a.Integral →
    EndsNumber rest → 2 * (renderChars a).length ≤ fuel + 1 →
    readValue (fuel + 1) depth (renderChars a ++ rest) = .ok (a, rest)
  | null, _, _, _, _, _, _, _ => rfl
  | bool true, _, _, _, _, _, _, _ => rfl
  | bool false, _, _, _, _, _, _, _ => rfl
  | int z, fuel, depth, rest, ⟨_, hfit⟩, _, hr, _ => by
    rw [Fits] at hfit
    exact readValue_int hfit.1 hfit.2 fuel depth hr
  | double _, _, _, _, _, hi, _, _ => hi.elim
  | string s, fuel, depth, rest, _, _, _, _ =>
    readValue_string s fuel depth rest
  | array [], fuel, depth, rest, ⟨_, hfit⟩, _, _, hf => by
    rw [Fits] at hfit
    rw [renderChars, List.length_cons] at hf
    obtain ⟨fuel, rfl⟩ : ∃ k, fuel = k + 1 := ⟨fuel - 1, by omega⟩
    exact readValue_array hfit.1 rfl
  | array (a :: l), fuel, depth, rest, ⟨ht, hfit⟩, hi, _, hf => by
    rw [Tidy, TidyElements] at ht
    rw [Fits, FitsElements] at hfit
    rw [Integral, IntegralElements] at hi
    rw [renderChars] at hf ⊢
    simp only [List.cons_append, List.append_assoc, List.nil_append]
    simp only [List.length_cons, List.length_append, List.length_nil] at hf
    obtain ⟨fuel, rfl⟩ : ∃ k, fuel = k + 2 := ⟨fuel - 2, by omega⟩
    obtain ⟨c, cs, hcs, hb, hc⟩ := exists_renderChars a hi.1
    refine readValue_array hfit.1 (readElements_cons ?_
      (readValue_renderChars a ⟨ht.1, hfit.2.1⟩ hi.1
        (endsNumber_elements l rest) (by omega))
      (readElements_render l rest ht.2 hfit.2.2 hi.2 (by omega)))
    rw [hcs]
    exact readComma?_first hb hc
  | object [], fuel, depth, rest, ⟨ht, hfit⟩, _, _, hf => by
    rw [Fits] at hfit
    rw [renderChars, List.length_cons] at hf
    obtain ⟨fuel, rfl⟩ : ∃ k, fuel = k + 1 := ⟨fuel - 1, by omega⟩
    exact readValue_object ht.1 hfit.1 rfl
  | object ((k, a) :: l), fuel, depth, rest, ⟨ht, hfit⟩, hi, _, hf => by
    rw [Tidy, TidyMembers] at ht
    rw [Fits, FitsMembers] at hfit
    rw [Integral, IntegralMembers] at hi
    rw [renderChars] at hf ⊢
    simp only [List.cons_append, List.append_assoc, List.nil_append]
    simp only [List.length_cons, List.length_append, List.length_nil] at hf
    obtain ⟨fuel, rfl⟩ : ∃ k, fuel = k + 2 := ⟨fuel - 2, by omega⟩
    refine readValue_object ht.1 hfit.1 (readMembers_cons ?_
      (readValue_renderChars a ⟨ht.2.1, hfit.2.1⟩ hi.1
        (endsNumber_members l rest) (by omega))
      (readMembers_render l rest ht.2.2 hfit.2.2 hi.2 (by omega)))
    rw [renderString_append]
    exact readComma?_first rfl (by decide)

/-- So are the elements after the first one. -/
theorem readElements_render : ∀ (l : List Json) {fuel depth : Nat}
    (rest : List Char), TidyElements l → FitsElements depth l →
    IntegralElements l → 2 * (renderElements l).length + 2 ≤ fuel + 1 →
    readElements (fuel + 1) depth false (renderElements l ++ ']' :: rest)
      = .ok (l, rest)
  | [], _, _, _, _, _, _, _ => rfl
  | a :: l, fuel, depth, rest, ht, hfit, hi, hf => by
    rw [renderElements] at hf ⊢
    simp only [List.cons_append, List.append_assoc]
    simp only [List.length_cons, List.length_append] at hf
    obtain ⟨fuel, rfl⟩ : ∃ k, fuel = k + 1 := ⟨fuel - 1, by omega⟩
    obtain ⟨c, cs, hcs, hb, hc⟩ := exists_renderChars a hi.1
    refine readElements_cons ?_ (readValue_renderChars a ⟨ht.1, hfit.1⟩ hi.1
      (endsNumber_elements l rest) (by omega))
      (readElements_render l rest ht.2 hfit.2 hi.2 (by omega))
    rw [hcs]
    exact readComma?_next hb hc (by decide)

/-- And the members. -/
theorem readMembers_render : ∀ (l : List (String × Json))
    {fuel depth : Nat} (rest : List Char), TidyMembers l →
    FitsMembers depth l → IntegralMembers l →
    2 * (renderMembers l).length + 2 ≤ fuel + 1 →
    readMembers (fuel + 1) depth false
      (renderMembers l ++ Char.ofNat 0x7d :: rest) = .ok (l, rest)
  | [], _, _, _, _, _, _, _ => rfl
  | (k, a) :: l, fuel, depth, rest, ht, hfit, hi, hf => by
    rw [renderMembers] at hf ⊢
    simp only [List.cons_append, List.append_assoc]
    simp only [List.length_cons, List.length_append] at hf
    obtain ⟨fuel, rfl⟩ : ∃ k, fuel = k + 1 := ⟨fuel - 1, by omega⟩
    refine readMembers_cons ?_ (readValue_renderChars a ⟨ht.1, hfit.1⟩ hi.1
      (endsNumber_members l rest) (by omega))
      (readMembers_render l rest ht.2 hfit.2 hi.2 (by omega))
    rw [renderString_append]
    exact readComma?_next rfl (by decide) (by decide)

end

/-- A value that was read from a text reads back from its own text, if
there is no double in it. -/
theorem parse_render_of_parse {depth : Nat} {s : String} {a : Json}
    (h : parse depth s = .ok a) (hi : a.Integral) :
    parse depth a.render = .ok a := by
  obtain ⟨⟨b, cs⟩, hread, h⟩ := exists_of_bind_eq_ok h
  obtain ⟨⟨⟩, -, h⟩ := exists_of_bind_eq_ok h
  obtain rfl : b = a := Except.ok.inj h
  have hlegible := legible_of_readValue _ hread
  have hback := readValue_renderChars b hlegible hi endsNumber_nil
    (Nat.le_succ_of_le (Nat.le_succ (2 * (renderChars b).length)))
  rw [List.append_nil] at hback
  rw [parse, render, String.toList_ofList, fuelFor, hback]
  rfl

end Json

end RemoteOps
