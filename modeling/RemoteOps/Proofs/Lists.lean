/-
Lists of which one entry is replaced, and lists that are split at an
entry.

* `forall_mem_set`, `map_set_of_eq`: what holds of all entries, and what a
  function sees of them;
* `sum_map_set`, `countP_set_add`: a replaced entry changes a sum or a
  count by its own share;
* `append_eq_append_cons`, `concat_eq_append_cons`: where an entry stands
  in two lists that are joined.
-/
import Mathlib.Algebra.GroupWithZero.Nat
import Mathlib.Data.List.Infix

namespace RemoteOps

variable {α β : Type} {l l' pre post : List α} {a b : α} {i : Nat}

/-! ### A replaced entry -/

lemma forall_mem_set {Q : α → Prop} (h : ∀ b ∈ l, Q b) (ha : Q a)
    (i : Nat) : ∀ b ∈ l.set i a, Q b := by
  intro b hb
  rcases List.mem_or_eq_of_mem_set hb with hb | rfl
  · exact h b hb
  · exact ha

/-- A change that a function does not see. -/
lemma map_set_of_eq {f : α → β} (h : l[i]? = some a) (hf : f b = f a) :
    (l.set i b).map f = l.map f := by
  refine List.ext_getElem? fun k => ?_
  rw [List.map_set, List.getElem?_set]
  by_cases hk : i = k
  · subst hk
    obtain ⟨hlt, -⟩ := List.getElem?_eq_some_iff.1 h
    rw [if_pos rfl, List.length_map, if_pos hlt, List.getElem?_map, h, hf,
      Option.map_some]
  · rw [if_neg hk, List.getElem?_map]

/-- Replacing one entry of a list replaces its share of a sum. -/
lemma sum_map_set (f : α → Nat) (h : l[i]? = some a) (b : α) :
    ((l.set i b).map f).sum + f a = (l.map f).sum + f b := by
  induction l generalizing i with
  | nil => cases h
  | cons c l ih =>
    cases i with
    | zero =>
      obtain rfl : c = a := Option.some.inj h
      simp only [List.set_cons_zero, List.map_cons, List.sum_cons]
      omega
    | succ i =>
      have := ih (i := i) h
      simp only [List.set_cons_succ, List.map_cons, List.sum_cons]
      omega

/-- One entry of a list may be counted instead of another one. -/
lemma countP_set_add (b : α) (p : α → Bool) (h : l[i]? = some a) :
    (l.set i b).countP p + (p a).toNat = l.countP p + (p b).toNat := by
  obtain ⟨hlt, hget⟩ := List.getElem?_eq_some_iff.1 h
  have hle : (p a).toNat ≤ l.countP p := by
    cases ha : p a with
    | false => exact Nat.zero_le _
    | true =>
      exact List.countP_pos_iff.2 ⟨a, hget ▸ List.getElem_mem hlt, ha⟩
  have hif : ∀ c : Bool, (if c = true then 1 else 0) = c.toNat := by decide
  rw [List.countP_set hlt, hget, hif, hif]
  omega

/-- The only entry of a list is replaced. -/
lemma set_of_singleton (hl : l = [a]) (hi : l[i]? = some b) (c : α) :
    b = a ∧ l.set i c = [c] := by
  subst hl
  have hlt : i < 1 := (List.getElem?_eq_some_iff.1 hi).1
  obtain rfl : i = 0 := by omega
  exact ⟨(Option.some.inj hi).symm, rfl⟩

/-! ### Splits at an entry -/

/-- An entry of two lists that are joined stands in one of them. -/
lemma append_eq_append_cons (h : l ++ l' = pre ++ a :: post) :
    (∃ mid, l = pre ++ a :: mid ∧ post = mid ++ l')
      ∨ ∃ mid, pre = l ++ mid ∧ l' = mid ++ a :: post := by
  rcases List.append_eq_append_iff.1 h with ⟨mid, rfl, hl⟩ | ⟨mid, rfl, hl⟩
  · exact .inr ⟨mid, rfl, hl⟩
  · cases mid with
    | nil => exact .inr ⟨[], by simp, hl.symm⟩
    | cons b mid =>
      obtain ⟨rfl, rfl⟩ := List.cons.inj hl
      exact .inl ⟨mid, rfl, rfl⟩

/-- The last one of a list is the one in question, or comes after it. -/
lemma concat_eq_append_cons (h : l ++ [a] = pre ++ b :: post) :
    post = [] ∧ a = b ∧ l = pre
      ∨ ∃ mid, post = mid ++ [a] ∧ l = pre ++ b :: mid := by
  rcases append_eq_append_cons h with ⟨mid, hl, hpost⟩ | ⟨mid, hpre, ha⟩
  · exact .inr ⟨mid, hpost, hl⟩
  · obtain ⟨rfl, hcons⟩ | ⟨mid', -, hnil⟩ := List.cons_eq_append_iff.1 ha
    · obtain ⟨rfl, rfl⟩ := List.cons.inj hcons
      exact .inl ⟨rfl, rfl, by rw [hpre, List.append_nil]⟩
    · simp at hnil

end RemoteOps
