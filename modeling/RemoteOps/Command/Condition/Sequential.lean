/-
Conditions as the shell reads them: one word after the other, with a
word counted as an operator unless what follows shows that it cannot be
one.

Numbers are words of 64 bits.  Texts can be compared by order, and
whatever is left behind a whole condition is an error only from the
second word on.

* `Condition.Sequential.status_le_two`: a condition holds, does not hold
  or is malformed.
-/
import RemoteOps.Command.Condition.Basic

namespace RemoteOps.Condition.Sequential

/-! ### Words as signs -/

/-- What a word can be. -/
inductive Sign where
  | operand
  | unary
  | binary
  | not
  | and
  | or
  | opening
  | closing
deriving DecidableEq, Repr

/-- The sign that a word can be. -/
def signOf (w : String) : Sign :=
  match w with
  | "!" => .not
  | "-a" => .and
  | "-o" => .or
  | "(" => .opening
  | ")" => .closing
  | "=" | "!=" | "<" | ">" | "-nt" | "-ot" | "-ef" => .binary
  | w =>
    if (compare? w).isSome then .binary
    else
      match sign? w with
      | some c =>
        if c = 'n' || c = 'z' || c = 't' || fileSigns.contains c then
          .unary
        else .operand
      | none => .operand

/-- Whether what follows an operator of one word shows that it is an
operand: nothing follows, or an operator of two words with something
behind it. -/
def isOperand : List String → Bool
  | [] => true
  | [_] => false
  | op :: _ :: _ => signOf op = .binary

/-- How the first word is read, if there is one. -/
def read : List String → Option Sign
  | [] => none
  | w :: rest =>
    match signOf w with
    | .unary => some (if isOperand rest then .operand else .unary)
    | .opening => some (if rest.isEmpty then .operand else .opening)
    | sign => some sign

/-- How the first word is read as an operator between two words. -/
def isBinary (words : List String) : Bool := read words = some .binary

/-! ### Operators -/

/-- What an operator says of two words. -/
def binary? (s : Setting) (x op y : String) : Option Bool :=
  match compare? op with
  | some holds => return holds (← Number.word? x) (← Number.word? y)
  | none =>
    match op with
    | "=" => some (x = y)
    | "!=" => some (x ≠ y)
    | "<" => some (x < y)
    | ">" => some (y < x)
    | "-ef" => some (s.same x y)
    | _ => some false

/-! ### Reading

A reader starts at a word, given how that word is read, and leaves the
words after the last one that it has read. -/

/-- A reader of conditions: what it says, and the last word that it has
read together with what follows. -/
abbrev Reader := Option Sign → List String → Option (Bool × List String)

mutual

/-- Conditions of which one must hold. -/
def either (s : Setting) : Nat → Reader
  | 0, _, _ => none
  | fuel + 1, sign, words => do
    let (b, words) ← both s fuel sign words
    if read words.tail = some .or then
      let rest := words.drop 2
      let (c, words) ← either s fuel (read rest) rest
      return (b || c, words)
    else return (b, words)

/-- Conditions of which all must hold. -/
def both (s : Setting) : Nat → Reader
  | 0, _, _ => none
  | fuel + 1, sign, words => do
    let (b, words) ← turned s fuel sign words
    if read words.tail = some .and then
      let rest := words.drop 2
      let (c, words) ← both s fuel (read rest) rest
      return (b && c, words)
    else return (b, words)

/-- A condition that may be turned around. -/
def turned (s : Setting) : Nat → Reader
  | 0, _, _ => none
  | fuel + 1, sign, words =>
    if sign = some .not then do
      let rest := words.tail
      let (b, words) ←
        turned s fuel (read rest) (if rest.isEmpty then words else rest)
      return (!b, words)
    else single s fuel sign words

/-- A condition that is not made of others, or one in brackets. -/
def single (s : Setting) : Nat → Reader
  | 0, _, _ => none
  | fuel + 1, sign, words =>
    match sign, words with
    | none, words => some (false, words)
    | some .opening, _ :: rest =>
      if read rest = some .closing then some (false, rest)
      else do
        let (b, words) ← either s fuel (read rest) rest
        let rest := words.tail
        if read rest = some .closing then return (b, rest) else none
    | some .unary, op :: rest =>
      match rest with
      | [] => none
      | x :: _ => (unary? Number.word? s op x).map (·, rest)
    | _, [] => none
    | _, x :: rest =>
      if isBinary rest then
        match rest with
        | op :: y :: after => (binary? s x op y).map (·, y :: after)
        | _ => none
      else some (x ≠ "", x :: rest)

end

/-- Reads from the first word on, given how it is read; more than one
word that is left is an error. -/
def reading (s : Setting) (sign : Option Sign) (words : List String) :
    Option Bool := do
  let (b, words) ← either s (4 * words.length + 8) sign words
  if 2 ≤ words.length then none else return b

/-- Whether a condition holds; none if it is malformed.  Up to four words
are looked at as a whole: brackets around them are taken off, and an
exclamation mark in front turns the answer around, once. -/
def holds? (s : Setting) : Nat → Bool → List String → Option Bool
  | 0, _, _ => none
  | _, negated, [] => some negated
  | fuel + 1, negated, words =>
    let whole (sign : Option Sign) :=
      (reading s sign words).map (· != negated)
    let n := words.length
    if n = 3 && (words.map signOf)[1]? = some .binary then
      whole (some .operand)
    else if n = 3 || n = 4 then
      if words.head? = some "(" && words.getLast? = some ")" then
        holds? s fuel negated words.tail.dropLast
      else if words.head? = some "!" then holds? s fuel true words.tail
      else whole (read words)
    else whole (read words)

/-- The exit status for a condition. -/
def status (s : Setting) (words : List String) : Nat :=
  code (holds? s (words.length + 1) false words)

/-- The exit status for a condition between brackets; the last word need
only start with the closing one. -/
def bracketStatus (s : Setting) (words : List String) : Nat :=
  if (words.getLastD "").startsWith "]" then status s words.dropLast
  else 2

theorem status_le_two (s : Setting) (words : List String) :
    status s words ≤ 2 :=
  code_le_two _

end RemoteOps.Condition.Sequential
