/-
Patterns of the shell: texts with characters that stand for others.

A star stands for any text, a question mark for any byte, and brackets
for one of the bytes that they list.  A quoted character stands for
itself only, and so does an opening bracket that is never closed.

* `Pattern.fits_literal`: a pattern of quoted characters fits its own
  text only;
* `Pattern.fits_many`: a star fits everything.
-/

namespace RemoteOps

/-- A character of a pattern, and whether it is quoted. -/
abbrev PatternChar := Char × Bool

/-- What brackets list. -/
inductive PatternMember where
  | range (low high : Char)
  | kind (name : String)
deriving DecidableEq, Repr

/-- A part of a pattern. -/
inductive PatternItem where
  | char (c : Char)
  | any
  | many
  | oneOf (negated : Bool) (members : List PatternMember)
deriving DecidableEq, Repr

/-- A pattern. -/
abbrev Pattern := List PatternItem

namespace Pattern

/-! ### Members of brackets -/

/-- Whether a byte is of a named kind. -/
def isOfKind (name : String) (c : Char) : Bool :=
  let blank := c = ' ' || c = '\t'
  let space := c = ' ' || (9 ≤ c.toNat && c.toNat ≤ 13)
  let graph := 33 ≤ c.toNat && c.toNat ≤ 126
  match name with
  | "alnum" => c.isAlphanum
  | "alpha" => c.isAlpha
  | "blank" => blank
  | "cntrl" => c.toNat < 32 || c.toNat = 127
  | "digit" => c.isDigit
  | "graph" => graph
  | "lower" => c.isLower
  | "print" => graph || c = ' '
  | "punct" => graph && !c.isAlphanum
  | "space" => space
  | "upper" => c.isUpper
  | "xdigit" =>
    c.isDigit || ('a' ≤ c && c ≤ 'f') || ('A' ≤ c && c ≤ 'F')
  | _ => false

/-- The named kinds of bytes. -/
def kinds : List String :=
  ["alnum", "alpha", "blank", "cntrl", "digit", "graph", "lower", "print",
    "punct", "space", "upper", "xdigit"]

/-- Whether a member of brackets covers a byte. -/
def covers (c : Char) : PatternMember → Bool
  | .range low high => low ≤ c && c ≤ high
  | .kind name => isOfKind name c

/-- The named kind that is written after an opening bracket within
brackets. -/
def kindAt? (cs : List PatternChar) : Option (String × List PatternChar) :=
  match cs with
  | (':', false) :: rest =>
    let letters := rest.takeWhile fun p => p.1.isLower && !p.2
    match rest.drop letters.length with
    | (':', false) :: (']', false) :: rest =>
      let name := String.ofList (letters.map (·.1))
      if kinds.contains name then some (name, rest) else none
    | _ => none
  | _ => none

/-- The character that is meant at a place: a backslash quotes the next
one. -/
def meant? : List PatternChar → Option (Char × List PatternChar)
  | ('\\', false) :: (c, _) :: rest => some (c, rest)
  | (c, _) :: rest => some (c, rest)
  | [] => none

/-- The members of brackets up to the closing one, which cannot be the
very first character. -/
def members? : Nat → Bool → List PatternChar →
    Option (List PatternMember × List PatternChar)
  | 0, _, _ => none
  | _, _, [] => none
  | fuel + 1, first, (c, quoted) :: rest =>
    if !first && c = ']' && !quoted then some ([], rest)
    else
      let single :=
        match meant? ((c, quoted) :: rest) with
        | none => none
        | some (low, after) =>
          match after with
          | ('-', false) :: next :: tail =>
            if next = (']', false) then
              (members? fuel false after).map fun (l, rest) =>
                (.range low low :: l, rest)
            else
              match meant? (next :: tail) with
              | none => none
              | some (high, after) =>
                (members? fuel false after).map fun (l, rest) =>
                  (.range low high :: l, rest)
          | after =>
            (members? fuel false after).map fun (l, rest) =>
              (.range low low :: l, rest)
      if c = '[' && !quoted then
        match kindAt? rest with
        | some (name, after) =>
          (members? fuel false after).map fun (l, rest) =>
            (.kind name :: l, rest)
        | none => single
      else single

/-- The item of brackets, after the opening one. -/
def brackets? (cs : List PatternChar) :
    Option (PatternItem × List PatternChar) :=
  let (negated, cs) :=
    match cs with
    | ('!', false) :: rest => (true, rest)
    | cs => (false, cs)
  (members? (cs.length + 1) true cs).map fun (l, rest) =>
    (.oneOf negated l, rest)

/-- The pattern of some characters. -/
def items : Nat → List PatternChar → Pattern
  | 0, _ => []
  | _, [] => []
  | fuel + 1, (c, quoted) :: rest =>
    if quoted then .char c :: items fuel rest
    else
      match c with
      | '*' => .many :: items fuel rest
      | '?' => .any :: items fuel rest
      | '[' =>
        match brackets? rest with
        | some (item, rest) => item :: items fuel rest
        | none => .char '[' :: items fuel rest
      | '\\' =>
        match rest with
        | (c, _) :: rest => .char c :: items fuel rest
        | [] => [.char '\\']
      | c => .char c :: items fuel rest

/-- The pattern of some characters. -/
def ofChars (cs : List PatternChar) : Pattern := items (cs.length + 1) cs

/-! ### Fitting -/

/-- A text without some of its first bytes, in all ways. -/
def suffixes : List Char → List (List Char)
  | [] => [[]]
  | c :: cs => (c :: cs) :: suffixes cs

/-- Whether a pattern fits a text. -/
def fits : Pattern → List Char → Bool
  | [], cs => cs.isEmpty
  | .many :: p, cs => (suffixes cs).any (fits p)
  | .char a :: p, c :: cs => a = c && fits p cs
  | .any :: p, _ :: cs => fits p cs
  | .oneOf negated l :: p, c :: cs =>
    l.any (covers c) != negated && fits p cs
  | _ :: _, [] => false

/-- What is left when a part that fits is taken from the front: the
shortest such part, or the longest. -/
def trimFront (p : Pattern) (longest : Bool) (cs : List Char) :
    List Char :=
  let lengths := List.range (cs.length + 1)
  let lengths := if longest then lengths.reverse else lengths
  match lengths.find? fun n => p.fits (cs.take n) with
  | some n => cs.drop n
  | none => cs

/-- What is left when a part that fits is taken from the back. -/
def trimBack (p : Pattern) (longest : Bool) (cs : List Char) :
    List Char :=
  let lengths := List.range (cs.length + 1)
  let lengths := if longest then lengths else lengths.reverse
  match lengths.find? fun n => p.fits (cs.drop n) with
  | some n => cs.take n
  | none => cs

theorem nil_mem_suffixes (cs : List Char) : [] ∈ suffixes cs := by
  induction cs with
  | nil => simp [suffixes]
  | cons c cs ih => simp [suffixes, ih]

theorem fits_many (cs : List Char) : fits [.many] cs = true := by
  rw [fits, List.any_eq_true]
  exact ⟨[], nil_mem_suffixes cs, rfl⟩

theorem fits_literal (l cs : List Char) :
    fits (l.map .char) cs = true ↔ cs = l := by
  induction l generalizing cs with
  | nil => simp [fits]
  | cons a l ih =>
    cases cs with
    | nil => simp [fits]
    | cons c cs =>
      rw [List.map_cons, fits, Bool.and_eq_true, ih, decide_eq_true_eq,
        List.cons.injEq]
      exact and_congr_left fun _ => eq_comm

end Pattern

end RemoteOps
