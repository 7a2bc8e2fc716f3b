/-
Words of a script as they are read from its text.

Between quotes, braces and brackets different characters are special,
so that a word is read in a context.  A backslash before a line end
joins two lines everywhere.

* `Script.readSingle_append`: single quotes keep everything.
-/
import RemoteOps.Command.Script.Basic

namespace RemoteOps.Script

/-! ### Characters -/

/-- An opening brace. -/
def openBrace : Char := Char.ofNat 0x7b

/-- A closing brace. -/
def closeBrace : Char := Char.ofNat 0x7d

/-- The quote that points backwards. -/
def backQuote : Char := Char.ofNat 0x60

/-- The blanks between words. -/
def isBlank (c : Char) : Bool := c = ' ' || c = '\t'

/-- Characters that end a word because they are signs. -/
def isSign (c : Char) : Bool :=
  [';', '&', '|', '(', ')', '<', '>', '\n'].contains c

/-- Leaves out joined line ends. -/
def skipJoins : List Char → List Char
  | '\\' :: '\n' :: cs => skipJoins cs
  | cs => cs

/-- A name at the start of a text, and the rest. -/
def takeName : List Char → List Char × List Char
  | '\\' :: '\n' :: cs => takeName cs
  | c :: cs =>
    if isNameChar c then
      let (name, rest) := takeName cs
      (c :: name, rest)
    else ([], c :: cs)
  | [] => ([], [])

/-! ### Contexts -/

/-- Where a piece of a word stands. -/
inductive Context where
  | bare
  /-- Between double quotes. -/
  | double
  /-- Between braces, which may themselves be quoted; double quotes may
  be open within quoted ones. -/
  | braces (quoted inner : Bool)
  /-- In arithmetic, with brackets that are still open. -/
  | arithmetic (depth : Nat)
  /-- In a text that is given to a command. -/
  | document
deriving DecidableEq, Repr

/-- Whether characters of a context are quoted. -/
def Context.isQuoted : Context → Bool
  | .bare => false
  | .braces quoted _ => quoted
  | _ => true

/-- Whether a backslash quotes a character in a quoted context. -/
def Context.escapes (context : Context) (c : Char) : Bool :=
  c = '$' || c = '\\' || c = backQuote ||
    match context with
    | .document => false
    | .braces _ _ => c = '"' || c = closeBrace
    | _ => c = '"'

/-- How commands within words are read: up to a closing bracket, or as a
text of their own. -/
structure Nested where
  enclosed : List Char → Option (Option Command × List Char)
  whole : List Char → Option (Option Command)

/-! ### Parameters -/

/-- A reader of words in a context: the word and the rest. -/
abbrev WordReader := Context → List Char → Option (Word × List Char)

/-- A piece and the rest. -/
abbrev PieceResult := Option (Piece × List Char)

/-- Reads on to the closing brace of a use that has no meaning. -/
def readMalformed (read : WordReader) (quoted : Bool) (cs : List Char) :
    PieceResult := do
  let (_, rest) ← read (.braces quoted false) cs
  return (.parameter "" quoted .malformed, rest)

/-- Reads what is done with a parameter, up to the closing brace. -/
def readUse (read : WordReader) (quoted : Bool) (name : String)
    (cs : List Char) : PieceResult :=
  let fallback (kind : Fallback) (orEmpty : Bool) (cs : List Char) := do
    let (word, rest) ← read (.braces quoted false) cs
    return (.parameter name quoted (.fallback kind orEmpty word), rest)
  let trim (side : Side) (sign : Char) (cs : List Char) := do
    let (longest, cs) :=
      match skipJoins cs with
      | c :: rest => if c = sign then (true, rest) else (false, cs)
      | [] => (false, cs)
    let (pattern, rest) ← read (.braces false false) cs
    return (.parameter name quoted (.trim side longest pattern), rest)
  let choose (orEmpty : Bool) (c : Char) (cs : List Char) : PieceResult :=
    if c = closeBrace then
      if orEmpty then do
        let (_, rest) ← read (.braces quoted false) cs
        return (.parameter name quoted .value, rest)
      else some (.parameter name quoted .value, cs)
    else
      match c with
      | '-' => fallback .stand orEmpty cs
      | '=' => fallback .assign orEmpty cs
      | '?' => fallback .fail orEmpty cs
      | '+' => fallback .replace orEmpty cs
      | _ => readMalformed read quoted cs
  match skipJoins cs with
  | [] => none
  | '#' :: rest => trim .front '#' rest
  | '%' :: rest => trim .back '%' rest
  | ':' :: rest =>
    match skipJoins rest with
    | c :: rest => choose true c rest
    | [] => none
  | c :: rest => choose false c rest

/-- Reads a parameter of which the length is asked for. -/
def readLength (read : WordReader) (quoted : Bool) (name : String)
    (cs : List Char) : PieceResult :=
  match skipJoins cs with
  | c :: rest =>
    if c = closeBrace then some (.parameter name quoted .length, rest)
    else readMalformed read quoted (c :: rest)
  | [] => none

/-- The name of a parameter between braces, and the rest; a number may
have several digits. -/
def bracedName (cs : List Char) : String × List Char :=
  match cs with
  | c :: _ =>
    if c.isDigit then
      (String.ofList (cs.takeWhile Char.isDigit), cs.dropWhile Char.isDigit)
    else
      let (name, rest) := takeName cs
      (String.ofList name, rest)
  | [] => ("", [])

/-- Reads a parameter between braces, after the opening one. -/
def readBraced (read : WordReader) (quoted : Bool) (cs : List Char) :
    PieceResult :=
  match skipJoins cs with
  | [] => none
  | c :: rest =>
    if isNameChar c then
      let (name, rest) := bracedName (c :: rest)
      readUse read quoted name rest
    else if c = '#' then
      match skipJoins rest with
      | [] => none
      | d :: after =>
        if isNameChar d then
          let (name, after) := bracedName (d :: after)
          readLength read quoted name after
        else
          match skipJoins after with
          | e :: _ =>
            if d ≠ closeBrace && e = closeBrace then
              if isSpecial d then
                readLength read quoted (String.singleton d) after
              else readMalformed read quoted after
            else readUse read quoted "#" (d :: after)
          | [] => readUse read quoted "#" (d :: after)
    else if isSpecial c then
      readUse read quoted (String.singleton c) rest
    else readMalformed read quoted (c :: rest)

/-! ### Substitutions -/

/-- The text up to the closing backward quote, and the rest.  A
backslash quotes another one, a backward quote and a dollar sign, and
between double quotes also those. -/
def readBackQuoted (quoted : Bool) :
    List Char → Option (List Char × List Char)
  | [] => none
  | ['\\'] => none
  | '\\' :: '\n' :: cs => readBackQuoted quoted cs
  | '\\' :: c :: cs => do
    let (text, rest) ← readBackQuoted quoted cs
    if c = '\\' || c = backQuote || c = '$' || quoted && c = '"' then
      return (c :: text, rest)
    else return ('\\' :: c :: text, rest)
  | c :: cs =>
    if c = backQuote then some ([], cs)
    else do
      let (text, rest) ← readBackQuoted quoted cs
      return (c :: text, rest)

/-- Reads what follows a dollar sign. -/
def readDollar (nested : Nested) (read : WordReader) (quoted : Bool)
    (cs : List Char) : PieceResult :=
  match skipJoins cs with
  | [] => some (.char '$' quoted, [])
  | '(' :: rest =>
    match skipJoins rest with
    | '(' :: rest => do
      let (text, rest) ← read (.arithmetic 0) rest
      return (.arithmetic text quoted, rest)
    | _ => do
      let (body, rest) ← nested.enclosed rest
      return (.substitution body quoted, rest)
  | c :: rest =>
    if c = openBrace then readBraced read quoted rest
    else if isNameStart c then
      let (name, rest) := takeName (c :: rest)
      some (.parameter (String.ofList name) quoted .value, rest)
    else if isSpecial c then
      some (.parameter (String.singleton c) quoted .value, rest)
    else some (.char '$' quoted, c :: rest)

/-! ### Words -/

/-- Reads up to the closing single quote. -/
def readSingle : List Char → Option (Word × List Char)
  | [] => none
  | '\'' :: cs => some ([], cs)
  | c :: cs => do
    let (w, rest) ← readSingle cs
    return (.char c true :: w, rest)

/-- The pieces of a word between double quotes: all arguments on their
own are left as they are. -/
def doubleQuoted (w : Word) : Word :=
  match w with
  | [.parameter "@" _ .value] => [.arguments]
  | w => .quote :: w ++ [.quote]

/-- Reads pieces of a word in a context, up to and with its end. -/
def readPieces (nested : Nested) : Nat → WordReader
  | 0, _, _ => none
  | _, context, [] =>
    match context with
    | .bare | .document => some ([], [])
    | _ => none
  | fuel + 1, context, c :: rest =>
    let read := readPieces nested fuel
    let quoted := context.isQuoted
    let goOn (w : Word) (context : Context) (rest : List Char) := do
      let (w', rest) ← read context rest
      return (w ++ w', rest)
    let goPiece (r : PieceResult) := do
      let (p, rest) ← r
      goOn [p] context rest
    let common : Unit → Option (Word × List Char) := fun _ =>
      if c = backQuote then do
        let (text, rest) ← readBackQuoted quoted rest
        let body ← nested.whole text
        goOn [.substitution body quoted] context rest
      else
        match c with
        | '\\' =>
          match rest with
          | '\n' :: rest => read context rest
          | d :: rest =>
            if quoted && !context.escapes d then
              goOn [.char '\\' true, .char d true] context rest
            else goOn [.char d true] context rest
          | [] => goOn [.char '\\' true] context []
        | '$' => goPiece (readDollar nested read quoted rest)
        | '\'' =>
          if quoted then goOn [.char c true] context rest
          else do
            let (w, rest) ← readSingle rest
            goOn (.quote :: w ++ [.quote]) context rest
        | '"' =>
          if quoted then goOn [.char c true] context rest
          else do
            let (w, rest) ← read .double rest
            goOn (doubleQuoted w) context rest
        | c => goOn [.char c quoted] context rest
    match context with
    | .bare =>
      if isBlank c || isSign c then some ([], c :: rest) else common ()
    | .double => if c = '"' then some ([], rest) else common ()
    | .braces q inner =>
      if c = closeBrace && !inner then some ([], rest)
      else if c = '"' && q then goOn [.quote] (.braces q (!inner)) rest
      else common ()
    | .arithmetic depth =>
      match c, depth with
      | '(', depth => goOn [.char c true] (.arithmetic (depth + 1)) rest
      | ')', depth + 1 => goOn [.char c true] (.arithmetic depth) rest
      | ')', 0 =>
        match skipJoins rest with
        | ')' :: rest => some ([], rest)
        | _ => goOn [.char c true] context rest
      | _, _ => common ()
    | .document => common ()

/-- Reads a word in a context. -/
def readWord (nested : Nested) (context : Context) (cs : List Char) :
    Option (Word × List Char) :=
  readPieces nested (4 * cs.length + 8) context cs

theorem readSingle_append {cs : List Char} (h : '\'' ∉ cs)
    (rest : List Char) :
    readSingle (cs ++ '\'' :: rest) =
      some (cs.map (Piece.char · true), rest) := by
  induction cs with
  | nil => rfl
  | cons c cs ih =>
    simp only [List.mem_cons, not_or] at h
    have hc : ¬ c = '\'' := fun e => h.1 e.symm
    rw [List.cons_append, readSingle]
    · simp [ih h.2]
    · exact hc

end RemoteOps.Script
