/-
Scripts of the shell: words with what they are made of, and commands.

A word is kept as it is written, so that it can stand for something else
each time it is used.

* `Script.plainText?_ofText`: a plain word is known by its text.
-/

namespace RemoteOps.Script

/-- An end of a text. -/
inductive Side where
  | front
  | back
deriving DecidableEq, Repr

/-- What to do about a parameter with or without a value. -/
inductive Fallback where
  /-- Without a value, the word stands in. -/
  | stand
  /-- Without a value, the word becomes the value. -/
  | assign
  /-- Without a value, the script fails. -/
  | fail
  /-- With a value, the word stands in for it. -/
  | replace
deriving DecidableEq, Repr

/-- How a file is opened. -/
inductive OpenMode where
  | read
  | write
  /-- Writes also over a file that is to be kept. -/
  | overwrite
  | append
  | readWrite
deriving DecidableEq, Repr

mutual

/-- A piece of a word. -/
inductive Piece where
  | char (c : Char) (quoted : Bool)
  /-- A quote stands here: the word is there even if it is empty. -/
  | quote
  | parameter (name : String) (quoted : Bool) (use : Use)
  /-- All arguments, each a word of its own. -/
  | arguments
  | substitution (body : Option Command) (quoted : Bool)
  | arithmetic (text : List Piece) (quoted : Bool)

/-- What is done with a parameter. -/
inductive Use where
  | value
  | length
  /-- What to do about its value; an empty one may count as none. -/
  | fallback (kind : Fallback) (orEmpty : Bool) (word : List Piece)
  | trim (side : Side) (longest : Bool) (pattern : List Piece)
  | malformed

/-- A change of the descriptors of a command. -/
inductive Redirection where
  | file (fd : Nat) (mode : OpenMode) (path : List Piece)
  | duplicate (fd : Nat) (source : List Piece)
  | document (fd : Nat) (text : List Piece)

/-- A command of a script. -/
inductive Command where
  | simple (assignments : List (String × List Piece))
      (words : List (List Piece)) (redirections : List Redirection)
  | pipeline (stages : List Command) (background : Bool)
  | redirected (body : Command) (redirections : List Redirection)
  | subshell (body : Command) (redirections : List Redirection)
  | background (body : Command)
  | sequence (first second : Command)
  | both (first second : Command)
  | either (first second : Command)
  | negated (body : Command)
  | conditional (test body : Command) (otherwise : Option Command)
  /-- A loop that goes on while its test succeeds, or while it fails. -/
  | loop (whileFails : Bool) (test body : Command)
  | each (name : String) (words : List (List Piece)) (body : Command)
  | choice (subject : List Piece)
      (cases : List (List (List Piece) × Option Command))
  | definition (name : String) (body : Command)

end

instance : Inhabited Command := ⟨.simple [] [] []⟩

/-- A word of a script. -/
abbrev Word := List Piece

/-! ### Names -/

/-- Whether a name can start with a character. -/
def isNameStart (c : Char) : Bool := c.isAlpha || c = '_'

/-- Whether a name can hold a character. -/
def isNameChar (c : Char) : Bool := c.isAlphanum || c = '_'

/-- Whether a text is a name. -/
def isName (s : String) : Bool :=
  match s.toList with
  | c :: cs => isNameStart c && cs.all isNameChar
  | [] => false

/-- The parameters that are named by a sign. -/
def isSpecial (c : Char) : Bool :=
  ['$', '#', '?', '@', '*', '!', '-'].contains c || c.isDigit

/-! ### Plain words -/

/-- The text of a piece that is one plain character. -/
def plainChar? : Piece → Option Char
  | .char c false => some c
  | _ => none

/-- The characters of a word as they are written, without quotes. -/
def bareText (w : Word) : String :=
  String.ofList (w.filterMap fun p =>
    match p with
    | .char c _ => some c
    | _ => none)

/-- The text of a word that is plain throughout. -/
def plainText? (w : Word) : Option String :=
  if w.all fun p => (plainChar? p).isSome then some (bareText w) else none

/-- The plain word of a text. -/
def ofText (s : String) : Word := s.toList.map (.char · false)

/-- The name that a word gives a value, and the value. -/
def assignment? (w : Word) : Option (String × Word) :=
  let name := (w.takeWhile fun p =>
    match plainChar? p with
    | some c => isNameChar c
    | none => false).filterMap plainChar?
  match w.drop name.length with
  | .char '=' false :: value =>
    let name := String.ofList name
    if isName name then some (name, value) else none
  | _ => none

/-- Whether a word was quoted anywhere. -/
def isQuoted (w : Word) : Bool :=
  w.any fun p =>
    match p with
    | .quote | .arguments | .char _ true => true
    | _ => false

theorem bareText_ofText (s : String) : bareText (ofText s) = s := by
  have h : ∀ cs : List Char, (cs.map (Piece.char · false)).filterMap
      (fun p => match p with | .char c _ => some c | _ => none) = cs := by
    intro cs
    induction cs with
    | nil => rfl
    | cons c cs ih => simp [ih]
  simp [bareText, ofText, h]

theorem plainText?_ofText (s : String) :
    plainText? (ofText s) = some s := by
  have h : (ofText s).all (fun p => (plainChar? p).isSome) = true := by
    simp [ofText, plainChar?]
  simp [plainText?, h, bareText_ofText]

end RemoteOps.Script
