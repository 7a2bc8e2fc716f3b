/-
Conditions as a program of their own reads them: by the number of their
words, so that operators can also be plain words.

Numbers may be of any size, and the length of a word can stand for a
number.

* `Condition.Counted.status_le_two`: a condition holds, does not hold or
  is malformed.
-/
import RemoteOps.Command.Condition.Basic

namespace RemoteOps.Condition.Counted

/-- The operators between two words. -/
def isBinary (op : String) : Bool :=
  ["=", "==", "!=", "-nt", "-ot", "-ef"].contains op
    || (compare? op).isSome

/-- A number that is given as such or as the length of a word. -/
def number? (isLength : Bool) (x : String) : Option Int :=
  if isLength then some (Int.ofNat x.length) else Number.integer? x

/-- What an operator says of two words, each of which may stand for its
length. -/
def binary? (s : Setting) (left : Bool) (x op : String) (right : Bool)
    (y : String) : Option Bool :=
  match compare? op with
  | some holds => return holds (← number? left x) (← number? right y)
  | none =>
    match op with
    | "=" | "==" => some (x = y)
    | "!=" => some (x ≠ y)
    | "-nt" => if left || right then none else some (s.has x && !s.has y)
    | "-ot" => if left || right then none else some (s.has y && !s.has x)
    | "-ef" => if left || right then none else some (s.same x y)
    | _ => none

/-- A reader of conditions: what it says and the words that are left. -/
abbrev Reader := List String → Option (Bool × List String)

/-- Turns around what a reader says. -/
def negate (r : Option (Bool × List String)) :
    Option (Bool × List String) :=
  r.map fun (b, rest) => (!b, rest)

/-- A condition of one word: it is not empty. -/
def one : Reader
  | x :: rest => some (x ≠ "", rest)
  | [] => none

/-- Whether a word looks like an operator of one word. -/
def isOption (x : String) : Bool := (sign? x).isSome

/-- A condition that an operator makes of one word. -/
def option (s : Setting) : Reader
  | op :: x :: rest =>
    if op = "-N" then some (false, rest)
    else (unary? Number.integer? s op x).map (·, rest)
  | _ => none

/-- A condition of two words. -/
def two (s : Setting) : Reader
  | "!" :: rest => negate (one rest)
  | op :: rest => if isOption op then option s (op :: rest) else none
  | [] => none

/-- A condition that an operator makes of two words.  Where a length is
asked for on the right of a comparison of texts, the operator itself is
compared. -/
def between (s : Setting) (left : Bool) : Reader
  | x :: op :: "-l" :: y :: rest =>
    match op with
    | "=" | "==" => some (op = y, rest)
    | "!=" => some (op ≠ y, rest)
    | _ => (binary? s left x op true y).map (·, rest)
  | x :: op :: y :: rest => (binary? s left x op false y).map (·, rest)
  | _ => none

/-- How many words stand between brackets, after the opening one: up to
four if the closing one follows, and else all that are left. -/
def bracketed (rest : List String) : Nat :=
  let n := 1 + (rest.tail.takeWhile (· ≠ ")")).length
  if n ≤ 4 then n else rest.length

mutual

/-- A condition of three words. -/
def three (s : Setting) : Nat → Reader
  | 0, _ => none
  | fuel + 1, x :: op :: y :: rest =>
    if isBinary op then between s false (x :: op :: y :: rest)
    else if x = "!" then negate (two s (op :: y :: rest))
    else if x = "(" && y = ")" then some (op ≠ "", rest)
    else if op = "-a" || op = "-o" then
      either s fuel (x :: op :: y :: rest)
    else none
  | _, _ => none

/-- A condition of the given number of words. -/
def counted (s : Setting) : Nat → Nat → Reader
  | 0, _, _ => none
  | fuel + 1, n, words =>
    match n, words with
    | 1, words => one words
    | 2, words => two s words
    | 3, words => three s fuel words
    | 4, "!" :: rest => negate (three s fuel rest)
    | 4, "(" :: x :: y :: ")" :: rest =>
      match two s [x, y] with
      | some (b, []) => some (b, rest)
      | _ => none
    | _, words => either s fuel words

/-- Conditions of which one must hold. -/
def either (s : Setting) : Nat → Reader
  | 0, _ => none
  | fuel + 1, words => do
    let (b, rest) ← both s fuel words
    match rest with
    | "-o" :: rest =>
      let (c, rest) ← either s fuel rest
      return (b || c, rest)
    | rest => return (b, rest)

/-- Conditions of which all must hold. -/
def both (s : Setting) : Nat → Reader
  | 0, _ => none
  | fuel + 1, words => do
    let (b, rest) ← single s fuel words
    match rest with
    | "-a" :: rest =>
      let (c, rest) ← both s fuel rest
      return (b && c, rest)
    | rest => return (b, rest)

/-- A condition that is not made of others, or one in brackets. -/
def single (s : Setting) : Nat → Reader
  | 0, _ => none
  | fuel + 1, words =>
    match words with
    | [] => none
    | "!" :: rest => negate (single s fuel rest)
    | "(" :: rest => do
      guard !rest.isEmpty
      let (b, rest) ← counted s fuel (bracketed rest) rest
      match rest with
      | ")" :: rest => return (b, rest)
      | _ => none
    | words =>
      if 4 ≤ words.length && words.head? = some "-l"
          && isBinary (words.getD 2 "") then
        between s true words.tail
      else if 3 ≤ words.length && isBinary (words.getD 1 "") then
        between s false words
      else if isOption (words.headD "") then option s words
      else one words

end

/-- Whether a condition holds; none if it is malformed.  No words make a
condition that does not hold. -/
def holds? (s : Setting) (words : List String) : Option Bool :=
  if words.isEmpty then some false
  else
    match counted s (4 * words.length + 8) words.length words with
    | some (b, []) => some b
    | _ => none

/-- The exit status for a condition. -/
def status (s : Setting) (words : List String) : Nat :=
  code (holds? s words)

/-- The exit status for a condition between brackets.  Two words on
their own ask for a description instead. -/
def bracketStatus (s : Setting) (words : List String) : Nat :=
  if words = ["--help"] || words = ["--version"] then 0
  else if words.getLast? = some "]" then status s words.dropLast
  else 2

theorem status_le_two (s : Setting) (words : List String) :
    status s words ≤ 2 :=
  code_le_two _

end RemoteOps.Condition.Counted
