/-
Arithmetic of the shell: expressions on whole numbers of 64 bits, with
names that have values.

An expression is read as a whole before anything is computed.  What is
not needed for the result is not computed: the other side of a choice,
and the right side of a conjunction or disjunction that is decided.

* `Arithmetic.wrap_isWord`: results are words of 64 bits;
* `Arithmetic.binary?_eq_none_iff`: only a division can fail, and only
  by zero.
-/
import RemoteOps.Command.Number

namespace RemoteOps.Arithmetic

/-! ### Expressions -/

/-- An operator before an operand. -/
inductive UnaryOp where
  | plus
  | minus
  | not
  | complement
deriving DecidableEq, Repr

/-- An operator between two numbers. -/
inductive BinaryOp where
  | times
  | divide
  | remainder
  | plus
  | minus
  | shiftLeft
  | shiftRight
  | less
  | lessEq
  | greater
  | greaterEq
  | equal
  | unequal
  | bitAnd
  | bitXor
  | bitOr
deriving DecidableEq, Repr

/-- An expression. -/
inductive Expr where
  | number (n : Int)
  | name (x : String)
  | unary (op : UnaryOp) (e : Expr)
  | binary (op : BinaryOp) (x y : Expr)
  | both (x y : Expr)
  | either (x y : Expr)
  | choice (test x y : Expr)
  /-- Gives a name a value, or changes the value by an operator. -/
  | assign (x : String) (op : Option BinaryOp) (e : Expr)
deriving DecidableEq, Repr

/-- How tightly an operator binds, the tightest first. -/
def BinaryOp.level : BinaryOp → Nat
  | .times | .divide | .remainder => 0
  | .plus | .minus => 1
  | .shiftLeft | .shiftRight => 2
  | .less | .lessEq | .greater | .greaterEq => 3
  | .equal | .unequal => 4
  | .bitAnd => 5
  | .bitXor => 6
  | .bitOr => 7

/-! ### Words and signs -/

/-- A word or a sign of an expression. -/
inductive Token where
  | number (n : Int)
  | name (x : String)
  | op (op : BinaryOp)
  | assign (op : Option BinaryOp)
  | sign (s : String)
deriving DecidableEq, Repr

/-- The signs of expressions, longer ones before their beginnings. -/
def signs : List (String × Token) :=
  [("<<=", .assign (some .shiftLeft)), (">>=", .assign (some .shiftRight)),
    ("<<", .op .shiftLeft), (">>", .op .shiftRight),
    ("<=", .op .lessEq), (">=", .op .greaterEq), ("==", .op .equal),
    ("!=", .op .unequal), ("&&", .sign "&&"), ("||", .sign "||"),
    ("*=", .assign (some .times)), ("/=", .assign (some .divide)),
    ("%=", .assign (some .remainder)), ("+=", .assign (some .plus)),
    ("-=", .assign (some .minus)), ("&=", .assign (some .bitAnd)),
    ("^=", .assign (some .bitXor)), ("|=", .assign (some .bitOr)),
    ("<", .op .less), (">", .op .greater), ("*", .op .times),
    ("/", .op .divide), ("%", .op .remainder), ("+", .op .plus),
    ("-", .op .minus), ("&", .op .bitAnd), ("^", .op .bitXor),
    ("|", .op .bitOr), ("=", .assign none), ("!", .sign "!"),
    ("~", .sign "~"), ("?", .sign "?"), (":", .sign ":"),
    ("(", .sign "("), (")", .sign ")")]

/-- Whether a name can start with a character. -/
def isNameStart (c : Char) : Bool := c.isAlpha || c = '_'

/-- Whether a name can hold a character. -/
def isNameChar (c : Char) : Bool := c.isAlphanum || c = '_'

/-- The largest number. -/
def maxWord : Int := 0x7fffffffffffffff

/-- The words and signs of a text. -/
def tokens? : Nat → List Char → Option (List Token)
  | 0, _ => none
  | _, [] => some []
  | fuel + 1, c :: cs =>
    if Number.isBlank c then tokens? fuel cs
    else if c.isDigit then
      let (n, rest) := Number.literal (c :: cs)
      (tokens? fuel rest).map (.number (min (Int.ofNat n) maxWord) :: ·)
    else if isNameStart c then
      let name := String.ofList ((c :: cs).takeWhile isNameChar)
      (tokens? fuel ((c :: cs).dropWhile isNameChar)).map (.name name :: ·)
    else
      match signs.find? fun s => s.1.toList.isPrefixOf (c :: cs) with
      | some (s, t) =>
        (tokens? fuel ((c :: cs).drop s.length)).map (t :: ·)
      | none => none

/-! ### Reading -/

/-- A reader of expressions: an expression and what is left. -/
abbrev Reader := List Token → Option (Expr × List Token)

mutual

/-- An expression that may give a name a value. -/
def assignment : Nat → Reader
  | 0, _ => none
  | fuel + 1, .name x :: .assign op :: rest => do
    let (e, rest) ← assignment fuel rest
    return (.assign x op e, rest)
  | fuel + 1, ts => choice fuel ts

/-- A choice between two expressions, or something tighter. -/
def choice : Nat → Reader
  | 0, _ => none
  | fuel + 1, ts => do
    let (test, rest) ← either fuel ts
    match rest with
    | .sign "?" :: rest =>
      let (x, rest) ← assignment fuel rest
      match rest with
      | .sign ":" :: rest =>
        let (y, rest) ← choice fuel rest
        return (.choice test x y, rest)
      | _ => none
    | rest => return (test, rest)

/-- A disjunction, or something tighter. -/
def either : Nat → Reader
  | 0, _ => none
  | fuel + 1, ts => do
    let (x, rest) ← both fuel ts
    match rest with
    | .sign "||" :: rest =>
      let (y, rest) ← either fuel rest
      return (.either x y, rest)
    | rest => return (x, rest)

/-- A conjunction, or something tighter. -/
def both : Nat → Reader
  | 0, _ => none
  | fuel + 1, ts => do
    let (x, rest) ← operand fuel ts
    let (x, rest) ← operators fuel 8 x rest
    match rest with
    | .sign "&&" :: rest =>
      let (y, rest) ← both fuel rest
      return (.both x y, rest)
    | rest => return (x, rest)

/-- Goes on with operators that bind more tightly than a level. -/
def operators : Nat → Nat → Expr → Reader
  | 0, _, _, _ => none
  | fuel + 1, level, x, .op op :: rest =>
    if op.level < level then do
      let (y, rest) ← operand fuel rest
      let (y, rest) ← operators fuel op.level y rest
      operators fuel level (.binary op x y) rest
    else some (x, .op op :: rest)
  | _, _, x, rest => some (x, rest)

/-- An operand. -/
def operand : Nat → Reader
  | 0, _ => none
  | fuel + 1, ts =>
    let after (op : UnaryOp) (rest : List Token) := do
      let (e, rest) ← operand fuel rest
      return (.unary op e, rest)
    match ts with
    | .number n :: rest => some (.number n, rest)
    | .name x :: rest => some (.name x, rest)
    | .sign "(" :: rest => do
      let (e, rest) ← assignment fuel rest
      match rest with
      | .sign ")" :: rest => return (e, rest)
      | _ => none
    | .op .plus :: rest => after .plus rest
    | .op .minus :: rest => after .minus rest
    | .sign "!" :: rest => after .not rest
    | .sign "~" :: rest => after .complement rest
    | _ => none

end

/-- The expression of a text. -/
def ofText? (s : String) : Option Expr := do
  let ts ← tokens? (s.length + 1) s.toList
  match ← assignment (8 * ts.length + 16) ts with
  | (e, []) => some e
  | _ => none

/-! ### Computing -/

/-- The word of 64 bits for a number. -/
def wrap (z : Int) : Int := z.bmod 0x10000000000000000

/-- The number for a truth. -/
def ofBool (b : Bool) : Int := if b then 1 else 0

/-- The bits of a word. -/
def bits (z : Int) : BitVec 64 := BitVec.ofInt 64 z

/-- How far a shift goes. -/
def distance (z : Int) : Nat := (bits z).toNat % 64

/-- What an operator makes of a number. -/
def unary (op : UnaryOp) (x : Int) : Int :=
  match op with
  | .plus => x
  | .minus => wrap (-x)
  | .not => ofBool (x = 0)
  | .complement => wrap (-x - 1)

/-- What an operator makes of two numbers. -/
def binary? (op : BinaryOp) (x y : Int) : Option Int :=
  match op with
  | .times => some (wrap (x * y))
  | .divide => if y = 0 then none else some (wrap (x.tdiv y))
  | .remainder => if y = 0 then none else some (wrap (x.tmod y))
  | .plus => some (wrap (x + y))
  | .minus => some (wrap (x - y))
  | .shiftLeft => some (wrap (x * (1 <<< distance y : Nat)))
  | .shiftRight => some (wrap (x / (1 <<< distance y : Nat)))
  | .less => some (ofBool (x < y))
  | .lessEq => some (ofBool (x ≤ y))
  | .greater => some (ofBool (x > y))
  | .greaterEq => some (ofBool (x ≥ y))
  | .equal => some (ofBool (x = y))
  | .unequal => some (ofBool (x ≠ y))
  | .bitAnd => some (bits x &&& bits y).toInt
  | .bitXor => some (bits x ^^^ bits y).toInt
  | .bitOr => some (bits x ||| bits y).toInt

/-- What computing needs: the values of names, giving them values, and
giving up. -/
structure Names (m : Type → Type) where
  get : String → m Int
  set : String → Int → m Unit
  fail : m Int

/-- Computes an expression. -/
def compute {m : Type → Type} [Monad m] (names : Names m) : Expr → m Int
  | .number n => pure n
  | .name x => names.get x
  | .unary op e => do return unary op (← compute names e)
  | .binary op x y => do
    let a ← compute names x
    let b ← compute names y
    match binary? op a b with
    | some n => return n
    | none => names.fail
  | .both x y => do
    let a ← compute names x
    if a = 0 then return 0
    let b ← compute names y
    return ofBool (b ≠ 0)
  | .either x y => do
    let a ← compute names x
    if a ≠ 0 then return 1
    let b ← compute names y
    return ofBool (b ≠ 0)
  | .choice test x y => do
    let a ← compute names test
    if a ≠ 0 then compute names x else compute names y
  | .assign x op e => do
    let b ← compute names e
    let value ←
      match op with
      | none => pure b
      | some op => do
        let a ← names.get x
        match binary? op a b with
        | some n => pure n
        | none => names.fail
    names.set x value
    return value

theorem wrap_isWord (z : Int) : Number.isWord (wrap z) = true := by
  have h₁ := Int.le_bmod (x := z) (m := 0x10000000000000000) (by decide)
  have h₂ := Int.bmod_lt (x := z) (m := 0x10000000000000000) (by decide)
  have : -0x8000000000000000 ≤ wrap z ∧ wrap z < 0x8000000000000000 := by
    unfold wrap
    omega
  simpa [Number.isWord] using this

theorem binary?_eq_none_iff {op : BinaryOp} {x y : Int} :
    binary? op x y = none ↔
      (op = .divide ∨ op = .remainder) ∧ y = 0 := by
  cases op <;> simp [binary?]

end RemoteOps.Arithmetic
