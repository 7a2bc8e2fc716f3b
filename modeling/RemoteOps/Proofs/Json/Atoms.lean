/-
Texts and integers in JSON: what is written reads back, and what is read
is in range.

* `Json.readString_escape`: a text reads back, whatever follows it;
* `Json.readNumber_toDigits`: so does an integer that fits into a
  significand, before what ends a number;
* `Json.readNumber_cases`: a number that is read is a double or such an
  integer.
-/
import Mathlib.Tactic.Lemma
import RemoteOps.Json.Decode
import RemoteOps.Json.Scan

namespace RemoteOps.Json

/-! ### Texts -/

lemma escape_ne_nil (c : Char) : escape c ≠ [] := by
  unfold escape
  repeat' split
  all_goals exact List.cons_ne_nil _ _

lemma length_le_flatMap_escape (l : List Char) :
    l.length ≤ (l.flatMap escape).length := by
  induction l with
  | nil => exact Nat.le_refl 0
  | cons c l ih =>
    have hc := List.length_pos_iff.2 (escape_ne_nil c)
    rw [List.length_cons, List.flatMap_cons, List.length_append]
    omega

/-- The characters of a text read back up to the closing quote. -/
lemma readCharsBy_escape (l rest : List Char) {fuel : Nat}
    (hf : l.length < fuel) :
    readCharsBy readChar fuel (l.flatMap escape ++ '"' :: rest)
      = .ok (l, rest) := by
  induction l generalizing fuel with
  | nil =>
    obtain ⟨fuel, rfl⟩ := Nat.exists_eq_succ_of_ne_zero (Nat.ne_zero_of_lt hf)
    rfl
  | cons c l ih =>
    obtain ⟨fuel, rfl⟩ := Nat.exists_eq_succ_of_ne_zero (Nat.ne_zero_of_lt hf)
    have hl : l.length < fuel := Nat.lt_of_succ_lt_succ hf
    rw [List.flatMap_cons, List.append_assoc, readCharsBy, readChar_escape,
      ok_bind]
    dsimp only
    rw [ih hl, ok_bind]
    rfl

/-- A text that is written reads back, whatever follows it. -/
theorem readString_escape (s : String) (rest : List Char) :
    readString (s.toList.flatMap escape ++ '"' :: rest) = .ok (s, rest) := by
  have hlen := length_le_flatMap_escape s.toList
  rw [readString, readCharsBy_escape _ _ (by rw [List.length_append]; omega)]
  show Except.ok (String.ofList s.toList, rest) = _
  rw [String.ofList_toList]

lemma renderString_append (s : String) (rest : List Char) :
    renderString s ++ rest
      = '"' :: (s.toList.flatMap escape ++ '"' :: rest) := by
  simp [renderString]

/-! ### Digits -/

lemma isDigit_eq (c : Char) : isDigit c = c.isDigit := by
  rw [Bool.eq_iff_iff]
  simp [isDigit, Char.isDigit, UInt32.le_iff_toNat_le]

lemma isDigit_of_mem_toDigits {n : Nat} {c : Char}
    (hc : c ∈ Nat.toDigits 10 n) : isDigit c = true := by
  rw [isDigit_eq]
  exact Nat.isDigit_of_mem_toDigits (by omega) (by omega) hc

lemma le_ofDigitChars (cs : List Char) (n : Nat) :
    n ≤ Nat.ofDigitChars 10 cs n := by
  induction cs generalizing n with
  | nil => exact Nat.le_refl n
  | cons c cs ih =>
    rw [Nat.ofDigitChars_cons]
    have := ih (10 * n + (c.toNat - '0'.toNat))
    omega

/-- Digits are added up if their value does not pass the limit. -/
lemma addDigits_eq {limit n : Nat} {cs : List Char}
    (h : Nat.ofDigitChars 10 cs n ≤ limit) :
    addDigits limit n cs = (Nat.ofDigitChars 10 cs n, cs.length) := by
  induction cs generalizing n with
  | nil => rfl
  | cons c cs ih =>
    have hstep : 10 * n + (c.toNat - '0'.toNat) = n * 10 + digitValue c := by
      rw [Nat.mul_comm]
      rfl
    rw [Nat.ofDigitChars_cons, hstep] at h ⊢
    have hle := Nat.le_trans (le_ofDigitChars cs (n * 10 + digitValue c)) h
    rw [addDigits, if_neg (Nat.not_lt.2 hle), ih h]
    rfl

/-- What was added up has not passed the limit. -/
lemma addDigits_le {limit n : Nat} (cs : List Char) (h : n ≤ limit) :
    (addDigits limit n cs).1 ≤ limit := by
  induction cs generalizing n with
  | nil => exact h
  | cons c cs ih =>
    rw [addDigits]
    split
    · exact h
    · next hle => exact ih (Nat.not_lt.1 hle)

/-- A number that is not zero is written without a zero in front. -/
lemma exists_toDigits {n : Nat} (hn : n ≠ 0) :
    ∃ c cs, Nat.toDigits 10 n = c :: cs ∧ c ≠ '0' := by
  induction n using Nat.strongRecOn with
  | ind n ih =>
    by_cases hlt : n < 10
    · refine ⟨_, _, Nat.toDigits_of_lt_base hlt, fun h => hn ?_⟩
      exact (Nat.digitChar_eq_zero).1 h
    · obtain ⟨c, cs, hds, hc⟩ := ih (n / 10) (by omega) (by omega)
      refine ⟨c, cs ++ [Nat.digitChar (n % 10)], ?_, hc⟩
      rw [Nat.toDigits_of_base_le (by omega) (by omega), hds, List.cons_append]

/-! ### Integers -/

/-- What follows does not go on with a number. -/
def EndsNumber (rest : List Char) : Prop :=
  ∀ c ∈ rest.head?, isDigit c = false ∧ c ≠ '.' ∧ c ≠ 'e' ∧ c ≠ 'E'

lemma endsNumber_nil : EndsNumber [] := by
  intro c hc
  cases hc

lemma endsNumber_cons {c : Char} (rest : List Char)
    (h : isDigit c = false ∧ c ≠ '.' ∧ c ≠ 'e' ∧ c ≠ 'E') :
    EndsNumber (c :: rest) := by
  intro c' hc'
  obtain rfl : c = c' := Option.some.inj hc'
  exact h

/-- Without point and exponent, digits are an integer. -/
lemma readTail_integer (negative : Bool) (n : Nat) {rest : List Char}
    (hr : EndsNumber rest) :
    readTail negative n 0 rest = .ok (integer negative n, rest) := by
  cases rest with
  | nil => rfl
  | cons c cs =>
    obtain ⟨-, hdot, he, hE⟩ := hr c rfl
    unfold readTail
    split
    · next heq => exact absurd (List.cons.inj heq).1 hdot
    · simp [he, hE]

lemma takeWhile_digits {ds rest : List Char}
    (hd : ∀ c ∈ ds, isDigit c = true) (hr : EndsNumber rest) :
    (ds ++ rest).takeWhile isDigit = ds
      ∧ (ds ++ rest).dropWhile isDigit = rest := by
  have hrest : rest.takeWhile isDigit = []
      ∧ rest.dropWhile isDigit = rest := by
    cases rest with
    | nil => exact ⟨rfl, rfl⟩
    | cons c cs =>
      have hc := (hr c rfl).1
      simp [hc]
  rw [List.takeWhile_append_of_pos hd, List.dropWhile_append_of_pos hd,
    hrest.1, hrest.2, List.append_nil]
  exact ⟨rfl, rfl⟩

/-- An integer in base 10 reads back, before what ends a number. -/
theorem readNumber_toDigits (negative : Bool) {n : Nat}
    (hn : n ≤ maxSignificand) {rest : List Char} (hr : EndsNumber rest) :
    readNumber negative (Nat.toDigits 10 n ++ rest)
      = .ok (integer negative n, rest) := by
  by_cases hz : n = 0
  · subst hz
    show readNumber negative ('0' :: rest) = _
    cases rest with
    | nil => rfl
    | cons c cs =>
      have hc := (hr c rfl).1
      simp only [readNumber, hc, Bool.false_eq_true, if_false]
      exact readTail_integer negative 0 hr
  · obtain ⟨c, cs, hds, hc⟩ := exists_toDigits hz
    obtain ⟨htake, hdrop⟩ := takeWhile_digits
      (fun c => isDigit_of_mem_toDigits (n := n)) hr
    have hvalue : Nat.ofDigitChars 10 (Nat.toDigits 10 n) 0 = n :=
      Nat.ofDigitChars_ten_toDigits
    have hadd : addDigits maxSignificand 0 (Nat.toDigits 10 n)
        = (n, (Nat.toDigits 10 n).length) := by
      rw [addDigits_eq (by rw [hvalue]; exact hn), hvalue]
    have hdigit : isDigit c = true :=
      isDigit_of_mem_toDigits (n := n) (by rw [hds]; exact .head _)
    rw [hds] at htake hdrop hadd ⊢
    rw [List.cons_append] at htake hdrop ⊢
    unfold readNumber
    split
    · next heq => cases heq
    · next heq => exact absurd (List.cons.inj heq).1 hc
    · next c' cs' _ heq =>
      obtain ⟨rfl, rfl⟩ := List.cons.inj heq
      rw [if_pos hdigit, htake, hdrop]
      show readTail negative (addDigits maxSignificand 0 (c :: cs)).1
        ((c :: cs).length - (addDigits maxSignificand 0 (c :: cs)).2) rest = _
      rw [hadd, Nat.sub_self]
      exact readTail_integer negative n hr

/-! ### What a number reads as -/

lemma readTail_cases {negative : Bool} {n dropped : Nat}
    {cs rest : List Char} {a : Json}
    (h : readTail negative n dropped cs = .ok (a, rest)) :
    (∃ x, a = double x) ∨ a = integer negative n := by
  have hdouble : ∀ r : Except TextFault (Double × List Char),
      (r >>= fun p => pure (double p.1, p.2)) = .ok (a, rest) →
      ∃ x, a = double x := by
    intro r hr
    obtain ⟨p, -, hp⟩ := exists_of_bind_eq_ok hr
    cases hp
    exact ⟨p.1, rfl⟩
  have hend : ∀ (wide : Bool) (r : Except TextFault (Double × List Char))
      (cs : List Char),
      (if wide then r >>= fun p => pure (double p.1, p.2)
        else .ok (integer negative n, cs)) = .ok (a, rest) →
      (∃ x, a = double x) ∨ a = integer negative n := by
    intro wide r cs hr
    cases wide with
    | true => exact .inl (hdouble r hr)
    | false => exact .inr (congrArg Prod.fst (Except.ok.inj hr)).symm
  unfold readTail at h
  split at h
  · exact .inl (hdouble _ h)
  · exact hend _ _ _ h

/-- A number that is read is a double or an integer whose digits have not
passed the limit. -/
theorem readNumber_cases {negative : Bool} {cs rest : List Char} {a : Json}
    (h : readNumber negative cs = .ok (a, rest)) :
    (∃ x, a = double x) ∨ ∃ n ≤ maxSignificand, a = integer negative n := by
  unfold readNumber at h
  split at h
  · cases h
  · have hzero : (∃ x, a = double x) ∨ a = integer negative 0 := by
      split at h
      · split at h
        · cases h
        · exact readTail_cases h
      · exact readTail_cases h
    exact hzero.imp_right fun ha => ⟨0, Nat.zero_le _, ha⟩
  · split at h
    · dsimp only at h
      exact (readTail_cases h).imp_right fun ha =>
        ⟨_, addDigits_le _ (Nat.zero_le _), ha⟩
    · cases h

end RemoteOps.Json
