/-
Words and signs of a script, one at a time from its text.

A token that turns out to belong to what follows is put back.  Where a
command can start, a word may be a short name for a text, which then
stands in its place; within that text it is a word like any other.

* `Script.next_putBack`: a token that is put back is read again.
-/
import RemoteOps.Command.Script.Word
import RemoteOps.Dict

namespace RemoteOps.Script

/-! ### Tokens -/

/-- A sign between words. -/
inductive Sign where
  | newline
  | semicolon
  | caseEnd
  | ampersand
  | andIf
  | orIf
  | bar
  | opening
  | closing
deriving DecidableEq, Repr

/-- What a sign of redirection asks for. -/
inductive Arrow where
  | file (mode : OpenMode)
  | duplicate
  /-- A text follows; tabs before its lines may be left out. -/
  | document (strip : Bool)
deriving DecidableEq, Repr

/-- A word or a sign, or the end of the script. -/
inductive Token where
  | word (w : Word)
  | arrow (fd : Nat) (arrow : Arrow)
  | sign (s : Sign)
  | ending

/-- Words that are signs where a command can start. -/
inductive Keyword where
  | bang
  | caseOf
  | doing
  | done
  | elseIf
  | otherwise
  | caseClose
  | conditionClose
  | forEach
  | ifThat
  | inside
  | thenDo
  | untilThat
  | whileThat
  | opening
  | closing
deriving DecidableEq, Repr

/-- The keyword of a text. -/
def keywordOf? (s : String) : Option Keyword :=
  match s with
  | "!" => some .bang
  | "case" => some .caseOf
  | "do" => some .doing
  | "done" => some .done
  | "elif" => some .elseIf
  | "else" => some .otherwise
  | "esac" => some .caseClose
  | "fi" => some .conditionClose
  | "for" => some .forEach
  | "if" => some .ifThat
  | "in" => some .inside
  | "then" => some .thenDo
  | "until" => some .untilThat
  | "while" => some .whileThat
  | s =>
    if s = String.singleton openBrace then some .opening
    else if s = String.singleton closeBrace then some .closing
    else none

/-- The keyword that a token can be. -/
def Token.keyword? : Token → Option Keyword
  | .word w => (plainText? w).bind keywordOf?
  | _ => none

/-- Whether a token ends a list of commands within another command. -/
def Token.endsList (t : Token) : Bool :=
  match t with
  | .ending | .sign .closing | .sign .caseEnd => true
  | t =>
    match t.keyword? with
    | some k =>
      [.doing, .done, .elseIf, .otherwise, .caseClose, .conditionClose,
        .thenDo, .closing].contains k
    | none => false

/-! ### Reading from the text -/

/-- Leaves out blanks, joined line ends and a comment. -/
def skipSpace : List Char → List Char
  | '\\' :: '\n' :: cs => skipSpace cs
  | '#' :: cs => cs.dropWhile (· ≠ '\n')
  | c :: cs => if isBlank c then skipSpace cs else c :: cs
  | [] => []

/-- Reads a sign of redirection after its first character. -/
def readArrow (c : Char) (cs : List Char) : Arrow × List Char :=
  let cs := skipJoins cs
  if c = '<' then
    match cs with
    | '<' :: rest =>
      match skipJoins rest with
      | '-' :: rest => (.document true, rest)
      | rest => (.document false, rest)
    | '&' :: rest => (.duplicate, rest)
    | '>' :: rest => (.file .readWrite, rest)
    | cs => (.file .read, cs)
  else
    match cs with
    | '>' :: rest => (.file .append, rest)
    | '|' :: rest => (.file .overwrite, rest)
    | '&' :: rest => (.duplicate, rest)
    | cs => (.file .write, cs)

/-- Reads a sign that may be written twice. -/
def readSign (c : Char) (single twice : Sign) (cs : List Char) :
    Token × List Char :=
  match skipJoins cs with
  | d :: rest => if d = c then (.sign twice, rest) else (.sign single, cs)
  | [] => (.sign single, cs)

/-- Reads a token at the start of a text without leading blanks. -/
def readToken (nested : Nested) (cs : List Char) :
    Option (Token × List Char) :=
  match cs with
  | [] => some (.ending, [])
  | '\n' :: rest => some (.sign .newline, rest)
  | '&' :: rest => some (readSign '&' .ampersand .andIf rest)
  | '|' :: rest => some (readSign '|' .bar .orIf rest)
  | ';' :: rest => some (readSign ';' .semicolon .caseEnd rest)
  | '(' :: rest => some (.sign .opening, rest)
  | ')' :: rest => some (.sign .closing, rest)
  | c :: rest =>
    let arrow (fd : Nat) (c : Char) (rest : List Char) :=
      let (a, rest) := readArrow c rest
      some (.arrow fd a, rest)
    let word := (readWord nested .bare cs).map fun (w, rest) =>
      (.word w, rest)
    if c = '<' then arrow 0 c rest
    else if c = '>' then arrow 1 c rest
    else if c.isDigit then
      match skipJoins rest with
      | '<' :: rest => arrow (c.toNat - 48) '<' rest
      | '>' :: rest => arrow (c.toNat - 48) '>' rest
      | _ => word
    else word

/-! ### Cursors -/

/-- A place in a script that is being read. -/
structure Cursor where
  rest : List Char
  /-- A token that was put back, and how much text was left in front of
  it. -/
  pushed : Option (Token × Nat) := none
  aliases : Dict String := .empty
  /-- Short names within whose texts the cursor may be, and how much is
  left behind each of these. -/
  inUse : List (String × Nat) := []

/-- A reader of a script. -/
abbrev Reading := StateT Cursor Option

/-- Whether the text of a short name ends in a blank, and ends between a
cursor and a place that is reached over blanks. -/
def Cursor.leaves (cursor : Cursor) (place : Nat) : Bool :=
  cursor.inUse.any fun (_, left) =>
    let before := cursor.rest.length - left
    place ≤ left && 0 < before
      && (cursor.rest[before - 1]?.map isBlank).getD false

/-- Reads a token; also how much text was left in front of it, and
whether it follows the text of a short name that ends in a blank. -/
def readAt (nested : Nested) : Reading (Token × Nat × Bool) :=
  fun cursor =>
    match cursor.pushed with
    | some (t, place) =>
      some ((t, place, false), { cursor with pushed := none })
    | none => do
      let cs := skipSpace cursor.rest
      let (t, rest) ← readToken nested cs
      return ((t, cs.length, cursor.leaves cs.length), { cursor with rest })

/-- Puts a token back. -/
def putBack (t : Token) (place : Nat) : Reading Unit :=
  modify fun cursor => { cursor with pushed := some (t, place) }

/-- The text that a token is short for, at a place. -/
def Cursor.alias? (cursor : Cursor) (t : Token) (place : Nat) :
    Option (String × String) :=
  match t with
  | .word w => do
    let name ← plainText? w
    let text ← cursor.aliases.find? name
    if cursor.inUse.any fun (n, left) => n = name && left < place then none
    else return (name, text)
  | _ => none

/-- Puts the text that a name is short for in front. -/
def Cursor.unfold (cursor : Cursor) (name text : String) : Cursor :=
  { cursor with
    rest := text.toList ++ cursor.rest
    inUse := (name, cursor.rest.length) :: cursor.inUse }

/-- How tokens are read. -/
structure Manner where
  /-- Whether a command can start here, so that short names count. -/
  starting : Bool := false
  /-- Whether line ends are left out. -/
  newlines : Bool := false
  /-- Whether keywords come before short names. -/
  keywords : Bool := false
deriving DecidableEq, Repr

/-- Reads a token, with the texts of short names in their places. -/
def tokenAt (nested : Nested) (m : Manner) : Nat → Reading (Token × Nat)
  | 0 => failure
  | fuel + 1 => do
    let (t, place, leaves) ← readAt nested
    let m := { m with starting := m.starting || leaves }
    let isNewline := match t with | .sign .newline => true | _ => false
    if m.newlines && isNewline then tokenAt nested m fuel
    else if m.keywords && t.keyword?.isSome then return (t, place)
    else
      let cursor ← get
      match if m.starting then cursor.alias? t place else none with
      | some (name, text) =>
        set (cursor.unfold name text)
        tokenAt nested m fuel
      | none => return (t, place)

/-- How many short names can follow one another in front of a token. -/
def Cursor.bound (cursor : Cursor) : Nat := 2 * cursor.rest.length + 1000

/-- Reads a token where no command starts. -/
def nextAt (nested : Nested) : Reading (Token × Nat) := do
  tokenAt nested {} (← get).bound

/-- Reads a token. -/
def next (nested : Nested) : Reading Token :=
  return (← nextAt nested).1

/-- Reads a token where a simple command starts. -/
def startToken (nested : Nested) : Reading (Token × Nat) := do
  tokenAt nested { starting := true } (← get).bound

/-- Looks at the token where a command can start. -/
def peekStart (nested : Nested) (newlines : Bool) : Reading Token := do
  let m : Manner := ⟨true, newlines, true⟩
  let (t, place) ← tokenAt nested m (← get).bound
  putBack t place
  return t

/-- Reads a token, and leaves out line ends in front of it. -/
def nextLine (nested : Nested) : Nat → Reading (Token × Nat)
  | 0 => failure
  | fuel + 1 => do
    let (t, place) ← nextAt nested
    match t with
    | .sign .newline => nextLine nested fuel
    | t => return (t, place)

theorem next_putBack (nested : Nested) (t : Token) (place : Nat)
    (cursor : Cursor) (h : cursor.pushed = none) :
    (do putBack t place; next nested : Reading Token).run cursor =
      some (t, cursor) := by
  cases cursor
  simp only at h
  subst h
  rfl

end RemoteOps.Script
