/-
Whole numbers in the words of commands: digits with an optional sign,
and blanks around them.
-/

namespace RemoteOps.Number

/-- Whether a character is a blank around a number. -/
def isBlank (c : Char) : Bool :=
  c = ' ' || (9 ≤ c.toNat && c.toNat ≤ 13)

/-- The value of a digit of any base up to sixteen. -/
def digit? (c : Char) : Option Nat :=
  if c.isDigit then some (c.toNat - 48)
  else if 'a' ≤ c && c ≤ 'f' then some (c.toNat - 87)
  else if 'A' ≤ c && c ≤ 'F' then some (c.toNat - 55)
  else none

/-- Whether a character is a digit of a base. -/
def isDigitOf (base : Nat) (c : Char) : Bool :=
  match digit? c with
  | some d => d < base
  | none => false

/-- The value of digits. -/
def valueOf (base : Nat) (cs : List Char) : Nat :=
  cs.foldl (fun n c => n * base + (digit? c).getD 0) 0

/-- The value of decimal digits, if they are digits and at least one. -/
def digits? (cs : List Char) : Option Nat :=
  if cs.isEmpty || !cs.all Char.isDigit then none
  else some (valueOf 10 cs)

/-- Takes a sign from the front. -/
def splitSign : List Char → Bool × List Char
  | '-' :: cs => (true, cs)
  | '+' :: cs => (false, cs)
  | cs => (false, cs)

/-- A number with a sign. -/
def signed (negative : Bool) (n : Nat) : Int :=
  if negative then -Int.ofNat n else Int.ofNat n

/-- An integer with an optional sign and blanks around it. -/
def integer? (s : String) : Option Int :=
  let cs := s.toList.dropWhile isBlank
  let cs := (cs.reverse.dropWhile isBlank).reverse
  let (negative, cs) := splitSign cs
  (digits? cs).map (signed negative)

/-- Whether an integer fits into a word of 64 bits. -/
def isWord (z : Int) : Bool :=
  -0x8000000000000000 ≤ z && z < 0x8000000000000000

/-- An integer of at most 64 bits. -/
def word? (s : String) : Option Int := (integer? s).filter isWord

/-- A count: not negative, and not beyond 31 bits. -/
def count? (s : String) : Option Nat := do
  let z ← integer? s
  if 0 ≤ z && z < 0x80000000 then some z.toNat else none

/-- The number at the start of a text in the notation of expressions,
where a leading zero stands for base eight, 0x for sixteen and 0b for
two, and the rest of the text. -/
def literal (cs : List Char) : Nat × List Char :=
  let inBase (base : Nat) (cs : List Char) : Nat × List Char :=
    (valueOf base (cs.takeWhile (isDigitOf base)),
      cs.dropWhile (isDigitOf base))
  match cs with
  | '0' :: 'x' :: c :: rest | '0' :: 'X' :: c :: rest =>
    if isDigitOf 16 c then inBase 16 (c :: rest) else (0, cs.drop 1)
  | '0' :: 'b' :: c :: rest | '0' :: 'B' :: c :: rest =>
    if isDigitOf 2 c then inBase 2 (c :: rest) else (0, cs.drop 1)
  | '0' :: _ => inBase 8 cs
  | _ => inBase 10 cs

/-- An integer in the notation of expressions, with blanks around it. -/
def literal? (s : String) : Option Int :=
  let cs := s.toList.dropWhile isBlank
  let (negative, cs) := splitSign cs
  match cs with
  | c :: _ =>
    if c.isDigit then
      let (n, rest) := literal cs
      if rest.all isBlank then some (signed negative n) else none
    else none
  | [] => none

/-- The digits of a number in a base. -/
def render (base : Nat) (upper : Bool) (n : Nat) : String :=
  let digits := Nat.toDigits base n
  String.ofList (if upper then digits.map Char.toUpper else digits)

theorem count?_lt {s : String} {n : Nat} (h : count? s = some n) :
    n < 0x80000000 := by
  unfold count? at h
  cases hz : integer? s with
  | none => simp [hz] at h
  | some z =>
    simp only [hz, Option.bind_eq_bind, Option.bind_some] at h
    split at h
    · next hb =>
      simp only [Bool.and_eq_true, decide_eq_true_eq] at hb
      have : z.toNat = n := by simpa using h
      omega
    · simp at h

end RemoteOps.Number
