/-
Reading the atoms of JSON text: blanks, words, texts and numbers.

A scanner takes the characters that are left and gives a value and the
characters after it, or the fault that it meets first: the text is
malformed, it ends too early, or it is well-formed and of the wrong
shape.  The `skip` scanners check less than the `read` ones: they look
at the outline of a text or a number only.

* `skipBlanks_idem`: blanks are skipped all at once;
* `readChar_escape`: a written character reads back, whatever follows
  it.
-/
import RemoteOps.Json.Printer

namespace RemoteOps

/-- Why JSON text cannot be read. -/
inductive TextFault where
  /-- The text breaks the grammar. -/
  | malformed
  /-- The text ends in the middle of a value. -/
  | truncated
  /-- The text is well-formed so far and of the wrong shape. -/
  | mistyped
deriving DecidableEq, Repr

/-- A scanner: from the characters that are left to a value and the
characters after it. -/
abbrev Scan (α : Type) := List Char → Except TextFault (α × List Char)

namespace Json

/-- The four blanks of JSON. -/
def isBlank (c : Char) : Bool :=
  c = ' ' || c = '\n' || c = '\t' || c = '\r'

/-- Drops blanks. -/
def skipBlanks (cs : List Char) : List Char := cs.dropWhile isBlank

theorem skipBlanks_idem (cs : List Char) :
    skipBlanks (skipBlanks cs) = skipBlanks cs := by
  induction cs with
  | nil => rfl
  | cons c cs ih =>
    simp only [skipBlanks, List.dropWhile_cons] at ih ⊢
    split
    · exact ih
    · next h => simp [h]

/-- Reads the given characters. -/
def readWord : List Char → Scan Unit
  | [], cs => .ok ((), cs)
  | _ :: _, [] => .error .truncated
  | w :: ws, c :: cs =>
    if c = w then readWord ws cs else .error .malformed

/-! ### Texts -/

/-- The value of a digit of base 16. -/
def hexValue? (c : Char) : Option Nat :=
  let n := c.toNat
  if 48 ≤ n && n ≤ 57 then some (n - 48)
  else if 97 ≤ n && n ≤ 102 then some (n - 87)
  else if 65 ≤ n && n ≤ 70 then some (n - 55)
  else none

/-- The value of four digits of base 16. -/
def hexValue4? (a b c d : Char) : Option Nat := do
  let a ← hexValue? a
  let b ← hexValue? b
  let c ← hexValue? c
  let d ← hexValue? d
  return ((a * 16 + b) * 16 + c) * 16 + d

/-- Reads four digits of base 16.  The text ends too early when fewer
than four bytes are left. -/
def readHex4 : Scan Nat
  | a :: b :: c :: d :: cs =>
    match hexValue4? a b c d with
    | some n => .ok (n, cs)
    | none => .error .malformed
  | cs =>
    if cs.foldl (fun n c => n + c.utf8Size) 0 < 4 then .error .truncated
    else .error .malformed

/-- Whether a number is the first half of a pair of code units. -/
def isLeading (n : Nat) : Bool := 0xd800 ≤ n && n ≤ 0xdbff

/-- Whether a number is the second half of a pair of code units. -/
def isTrailing (n : Nat) : Bool := 0xdc00 ≤ n && n ≤ 0xdfff

/-- Reads a character given by one code unit or by a pair. -/
def readUnits : Scan Char := fun cs => do
  let (n, cs) ← readHex4 cs
  if isTrailing n then .error .malformed
  else if isLeading n then
    match cs with
    | [] => .error .truncated
    | '\\' :: [] => .error .truncated
    | '\\' :: 'u' :: cs =>
      let (m, cs) ← readHex4 cs
      if isTrailing m then
        .ok (Char.ofNat ((n - 0xd800) * 0x400 + (m - 0xdc00) + 0x10000),
          cs)
      else .error .malformed
    | _ => .error .malformed
  else .ok (Char.ofNat n, cs)

/-- The character that a one-letter escape stands for. -/
def unescape? (c : Char) : Option Char :=
  if c = '"' || c = '\\' || c = '/' then some c
  else if c = 'b' then some (Char.ofNat 8)
  else if c = 'f' then some (Char.ofNat 12)
  else if c = 'n' then some '\n'
  else if c = 'r' then some '\r'
  else if c = 't' then some '\t'
  else none

/-- Reads one character inside quotes; `none` is the closing quote. -/
def readChar : Scan (Option Char)
  | [] => .error .truncated
  | '"' :: cs => .ok (none, cs)
  | '\\' :: [] => .error .truncated
  | '\\' :: c :: cs =>
    if c = 'u' then do
      let (c, cs) ← readUnits cs
      return (some c, cs)
    else
      match unescape? c with
      | some c => .ok (some c, cs)
      | none => .error .malformed
  | c :: cs =>
    if c.toNat < 32 then .error .malformed else .ok (some c, cs)

theorem hexValue4?_hexDigit : ∀ n < 32,
    hexValue4? '0' '0' (hexDigit (n / 16)) (hexDigit (n % 16)) = some n := by
  decide

/-- A character is known by its code point. -/
theorem eq_ofNat {c : Char} {n : Nat} (h : c.toNat = n) :
    c = Char.ofNat n := by
  rw [← h, Char.ofNat_toNat]

/-- What is written for a character inside quotes reads back. -/
theorem readChar_escape (c : Char) (cs : List Char) :
    readChar (escape c ++ cs) = .ok (some c, cs) := by
  unfold escape
  split
  · next h => subst h; rfl
  split
  · next h => subst h; rfl
  split
  · next h => rw [eq_ofNat h]; rfl
  split
  · next h => rw [eq_ofNat h]; rfl
  split
  · next h => rw [eq_ofNat h]; rfl
  split
  · next h => rw [eq_ofNat h]; rfl
  split
  · next h => rw [eq_ofNat h]; rfl
  split
  · next h =>
    have hx := hexValue4?_hexDigit c.toNat h
    have ht : isTrailing c.toNat = false := by
      simp only [isTrailing]; grind
    have hl : isLeading c.toNat = false := by
      simp only [isLeading]; grind
    simp [readChar, readUnits, readHex4, hx, ht, hl, bind, Except.bind,
      pure, Except.pure, Char.ofNat_toNat]
  · next _ hb _ _ _ _ _ h => simp [readChar, hb, h]

/-- Skips one character inside quotes; a code unit without its partner
passes. -/
def skipChar : Scan (Option Char)
  | [] => .error .truncated
  | '"' :: cs => .ok (none, cs)
  | '\\' :: [] => .error .truncated
  | '\\' :: c :: cs =>
    if c = 'u' then do
      let (_, cs) ← readHex4 cs
      return (some c, cs)
    else if (unescape? c).isSome then .ok (some c, cs)
    else .error .malformed
  | c :: cs =>
    if c.toNat < 32 then .error .malformed else .ok (some c, cs)

/-- Repeats a scanner of characters up to the closing quote. -/
def readCharsBy (scan : Scan (Option Char)) : Nat → Scan (List Char)
  | 0, _ => .error .truncated
  | fuel + 1, cs => do
    match ← scan cs with
    | (none, cs) => return ([], cs)
    | (some c, cs) =>
      let (rest, cs) ← readCharsBy scan fuel cs
      return (c :: rest, cs)

/-- Reads a text whose opening quote is read. -/
def readString : Scan String := fun cs => do
  let (s, cs) ← readCharsBy readChar (cs.length + 1) cs
  return (String.ofList s, cs)

/-- Skips a text whose opening quote is read. -/
def skipString : Scan Unit := fun cs => do
  let (_, cs) ← readCharsBy skipChar (cs.length + 1) cs
  return ((), cs)

/-! ### Numbers -/

/-- Whether a character is a decimal digit. -/
def isDigit (c : Char) : Bool := 48 ≤ c.toNat && c.toNat ≤ 57

/-- The value of a decimal digit. -/
def digitValue (c : Char) : Nat := c.toNat - 48

/-- The largest significand that is kept exactly. -/
def maxSignificand : Nat := 0xffffffffffffffff

/-- The largest exponent that is kept exactly. -/
def maxExponent : Nat := 0x7fffffff

/-- Adds digits to a significand until the next one would pass the
limit; gives the sum and the number of digits that were used. -/
def addDigits (limit : Nat) : Nat → List Char → Nat × Nat
  | n, [] => (n, 0)
  | n, c :: cs =>
    if limit < n * 10 + digitValue c then (n, 0)
    else
      let (m, used) := addDigits limit (n * 10 + digitValue c) cs
      (m, used + 1)

/-- Divides a double by a power of ten, at most 308 places at a time. -/
def divideByPower (x : Double) (k : Nat) : Option Double :=
  if k ≤ 308 then do x.div? (← Double.ofNat? (Nat.pow 10 k))
  else if x.isZero then some x
  else do
    match x.div? (← Double.ofNat? (Nat.pow 10 308)) with
    | some y => divideByPower y (k - 308)
    | none => none
termination_by k

/-- The double for `n * 10 ^ e`: the significand is rounded first, the
product or quotient again.  `none` if it is too large. -/
def scaled? (n : Nat) (e : Int) : Option Double := do
  let x ← Double.ofNat? n
  if e < 0 then divideByPower x e.natAbs
  else if e ≤ 308 then x.mul? (← Double.ofNat? (Nat.pow 10 e.natAbs))
  else if x.isZero then some x
  else none

/-- A double with its sign, or the fault of a number that is too
large. -/
def signed (negative : Bool) (x : Option Double) :
    Except TextFault Double :=
  match x with
  | some x => .ok (if negative then x.neg else x)
  | none => .error .malformed

/-- Reads what follows the letter of an exponent. -/
def readExponent (negative : Bool) (n : Nat) (e : Int) : Scan Double :=
  fun cs => do
    let (down, cs) : Bool × List Char :=
      match cs with
      | '+' :: cs => (false, cs)
      | '-' :: cs => (true, cs)
      | cs => (false, cs)
    match cs with
    | [] => .error .truncated
    | c :: _ =>
      if !isDigit c then .error .malformed
      else
        let ds := cs.takeWhile isDigit
        let (k, used) := addDigits maxExponent 0 ds
        let rest := cs.dropWhile isDigit
        if used < ds.length then
          if n ≠ 0 && !down then .error .malformed
          else .ok (.zero negative, rest)
        else
          let x := scaled? n (if down then e - k else e + k)
          return (← signed negative x, rest)

/-- Reads the end of a number that is a double, after its digits. -/
def readScale (negative : Bool) (n : Nat) (e : Int) : Scan Double
  | c :: cs =>
    if c = 'e' || c = 'E' then readExponent negative n e cs
    else do return (← signed negative (scaled? n e), c :: cs)
  | [] => do return (← signed negative (scaled? n e), [])

/-- Reads what follows a decimal point. -/
def readFraction (negative : Bool) (n : Nat) (e : Int) : Scan Double :=
  fun cs =>
    match cs.takeWhile isDigit, cs with
    | [], [] => .error .truncated
    | [], _ :: _ => .error .malformed
    | ds, cs =>
      let (m, used) := addDigits maxSignificand n ds
      readScale negative m (e - used) (cs.dropWhile isDigit)

/-- The number of an integer without point and exponent: a double when
it is out of the range of the integers or a negative zero. -/
def integer (negative : Bool) (n : Nat) : Json :=
  if !negative then int n
  else if n = 0 then double (.zero true)
  else if n ≤ 0x8000000000000000 then int (-n)
  else
    match Double.ofNat? n with
    | some x => double x.neg
    | none => null

/-- Reads the rest of a number after its integer digits, of which
`dropped` did not fit into the significand. -/
def readTail (negative : Bool) (n dropped : Nat) : Scan Json
  | '.' :: cs => do
    let (x, cs) ← readFraction negative n dropped cs
    return (double x, cs)
  | cs =>
    let wide : Bool :=
      match cs with
      | c :: _ => c = 'e' || c = 'E'
      | [] => false
    if wide || 0 < dropped then do
      let (x, cs) ← readScale negative n dropped cs
      return (double x, cs)
    else .ok (integer negative n, cs)

/-- Reads a number after its sign. -/
def readNumber (negative : Bool) : Scan Json
  | [] => .error .truncated
  | '0' :: cs =>
    match cs with
    | c :: _ =>
      if isDigit c then .error .malformed
      else readTail negative 0 0 cs
    | [] => readTail negative 0 0 cs
  | c :: cs =>
    if isDigit c then
      let ds := (c :: cs).takeWhile isDigit
      let (n, used) := addDigits maxSignificand 0 ds
      readTail negative n (ds.length - used) ((c :: cs).dropWhile isDigit)
    else .error .malformed

/-- Skips what follows the letter of an exponent. -/
def skipExponent (cs : List Char) : Except TextFault (List Char) :=
  let cs :=
    match cs with
    | '+' :: cs => cs
    | '-' :: cs => cs
    | cs => cs
  match cs with
  | c :: cs =>
    if isDigit c then .ok (cs.dropWhile isDigit) else .error .malformed
  | [] => .error .malformed

/-- Skips the end of a number, after its digits. -/
def skipScale : List Char → Except TextFault (List Char)
  | c :: cs =>
    if c = 'e' || c = 'E' then skipExponent cs else .ok (c :: cs)
  | [] => .ok []

/-- Skips the rest of a number after its integer digits. -/
def skipTail : List Char → Except TextFault (List Char)
  | '.' :: cs =>
    if (cs.takeWhile isDigit).isEmpty then .error .malformed
    else skipScale (cs.dropWhile isDigit)
  | cs => skipScale cs

/-- Skips a number after its sign; a number cut off at the end of the
text is malformed here. -/
def skipNumber : List Char → Except TextFault (List Char)
  | [] => .error .malformed
  | '0' :: cs =>
    match cs with
    | c :: _ => if isDigit c then .error .malformed else skipTail cs
    | [] => .ok []
  | c :: cs =>
    if isDigit c then skipTail (cs.dropWhile isDigit)
    else .error .malformed

end Json

end RemoteOps
