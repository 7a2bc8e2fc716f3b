/-
White space of a text, in the sense of the Unicode property
`White_Space`: cutting a text into words and trimming it.

* `Blank.words_forall`: a word is not empty and holds no blank.
-/

namespace RemoteOps.Blank

/-- Ranges of code points with the property `White_Space`. -/
def ranges : List (Nat × Nat) :=
  [(0x09, 0x0d), (0x20, 0x20), (0x85, 0x85), (0xa0, 0xa0),
    (0x1680, 0x1680), (0x2000, 0x200a), (0x2028, 0x2029),
    (0x202f, 0x202f), (0x205f, 0x205f), (0x3000, 0x3000)]

/-- Whether a character is white space. -/
def isBlank (c : Char) : Bool :=
  ranges.any fun r => r.1 ≤ c.toNat && c.toNat ≤ r.2

/-- Cuts characters into words: `word` collects, reversed, the word that
is being read. -/
def wordsFrom (word : List Char) : List Char → List (List Char)
  | [] => if word.isEmpty then [] else [word.reverse]
  | c :: cs =>
    if isBlank c then
      if word.isEmpty then wordsFrom [] cs
      else word.reverse :: wordsFrom [] cs
    else wordsFrom (c :: word) cs

/-- The words of a text: its longest pieces without white space. -/
def words (s : String) : List String :=
  (wordsFrom [] s.toList).map String.ofList

/-- A text without the white space at its two ends. -/
def trim (s : String) : String :=
  String.ofList
    ((s.toList.dropWhile isBlank).reverse.dropWhile isBlank).reverse

theorem wordsFrom_forall {word cs : List Char}
    (h : ∀ c ∈ word, isBlank c = false) :
    ∀ w ∈ wordsFrom word cs, w ≠ [] ∧ ∀ c ∈ w, isBlank c = false := by
  induction cs generalizing word with
  | nil =>
    intro w hw
    cases word with
    | nil => simp [wordsFrom] at hw
    | cons x xs => simp [wordsFrom] at hw; subst hw; simpa [or_comm] using h
  | cons c cs ih =>
    intro w hw
    simp only [wordsFrom] at hw
    split at hw
    · split at hw
      · exact ih (by simp) w hw
      · next hne =>
        rcases List.mem_cons.1 hw with rfl | hw
        · exact ⟨by simpa using hne, by simpa using h⟩
        · exact ih (by simp) w hw
    · next hc => exact ih (by simpa [hc] using h) w hw

theorem words_forall {s : String} :
    ∀ w ∈ words s, w.toList ≠ [] ∧ ∀ c ∈ w.toList, isBlank c = false := by
  intro w hw
  obtain ⟨cs, hcs, rfl⟩ := List.mem_map.1 hw
  simpa using wordsFrom_forall (by simp) cs hcs

end RemoteOps.Blank
