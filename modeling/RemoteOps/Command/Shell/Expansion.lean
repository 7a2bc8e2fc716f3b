/-
What words stand for: values of parameters, results of commands and of
arithmetic, and the home of a user.

A word stands for some fields, or, where only one text is wanted, for
that text.
-/
import RemoteOps.Command.Arithmetic
import RemoteOps.Command.Pattern
import RemoteOps.Command.Shell.Fields
import RemoteOps.Command.Shell.State

namespace RemoteOps.Shell

open Script (Piece Use Fallback)

/-! ### Values -/

/-- The separators that values are cut at. -/
def separators (s : Shell) : String := (s.value? "IFS").getD Fields.usual

/-- What stands between arguments that are joined. -/
def joiner (s : Shell) : String :=
  match s.value? "IFS" with
  | some ifs => String.ofList (ifs.toList.take 1)
  | none => " "

/-- Joins texts by a separator. -/
def join (separator : String) : List String → String
  | [] => ""
  | [x] => x
  | x :: l => x ++ separator ++ join separator l

/-- Whether a parameter is all arguments. -/
def isAll (name : String) : Bool := name = "@" || name = "*"

/-- The value of a parameter, if it has one; arguments are joined. -/
def parameter? (s : Shell) (name : String) : Option String :=
  match name with
  | "$" => some (toString s.shellProcess)
  | "#" => some (toString s.arguments.length)
  | "?" => some (toString s.last)
  | "-" => some (s.optionLetters)
  | "!" => s.lastJob.map toString
  | "@" | "*" => some (join s.joiner s.arguments)
  | "0" => some s.name
  | name =>
    match Number.digits? name.toList with
    | some n => if n = 0 then some s.name else s.arguments[n - 1]?
    | none => s.value? name

/-! ### Homes -/

/-- The home of a user; the user of no name is the one at work. -/
def home? (s : Shell) (user : String) : Option String :=
  match user with
  | "" => s.value? "HOME"
  | "root" => some "/root"
  | "bin" => some "/bin"
  | "sys" => some "/dev"
  | "daemon" => some "/usr/sbin"
  | "nobody" => some "/nonexistent"
  | _ => none

/-- Puts the home of a user in the place of its sign at the start of a
word; in a value the user's name ends also at a colon. -/
def homeAtStart (s : Shell) (isValue : Bool) (w : List Piece) :
    List Piece :=
  match w with
  | .char '~' false :: rest =>
    let isOfName (p : Piece) : Bool :=
      match Script.plainChar? p with
      | some c => c ≠ '/' && !(isValue && c = ':')
      | none => false
    let user := rest.takeWhile isOfName
    let after := rest.drop user.length
    let ends :=
      match after with
      | [] => true
      | p :: _ => (Script.plainChar? p).isSome
    match ends, s.home? (Script.bareText user) with
    | true, some home => home.toList.map (.char · true) ++ after
    | _, _ => w
  | w => w

/-- Puts homes in the places of their signs at the start of a value and
after its colons. -/
def homesInValue (s : Shell) : Nat → List Piece → List Piece
  | 0, w => w
  | fuel + 1, w =>
    let w := s.homeAtStart true w
    let isColon (p : Piece) : Bool := Script.plainChar? p = some ':'
    let before := w.takeWhile fun p => !isColon p
    match w.drop before.length with
    | colon :: rest => before ++ colon :: homesInValue s fuel rest
    | [] => before

/-! ### Pieces -/

/-- How the pieces of a word are used. -/
structure Setting where
  /-- Fields are wanted. -/
  split : Bool := false
  /-- Plain characters are a value that is cut. -/
  isValue : Bool := false
  /-- Signs for homes count after colons too. -/
  homes : Bool := false

/-- How commands within words are run: the text that they write. -/
abbrev Substitute := Option Script.Command → Act String

/-- A text as a value that is quoted or not. -/
def valueGlyphs (quoted : Bool) (text : String) : List Glyph :=
  if quoted then Glyph.quoted text else Glyph.value text

/-- Arguments that are kept apart, each made of parts. -/
def apart (parts : String → List Glyph) : List String → List Glyph
  | [] => []
  | [x] => parts x
  | x :: l => parts x ++ .cut :: apart parts l

/-- What all arguments stand for. -/
def allGlyphs (s : Shell) (setting : Setting) (name : String)
    (quoted : Bool) : List Glyph :=
  let joined := valueGlyphs quoted (join s.joiner s.arguments)
  if !setting.split then joined
  else if quoted then
    if name = "@" then
      if s.arguments.isEmpty then []
      else .edge true :: apart Glyph.quoted s.arguments
    else joined
  else
    .edge false :: apart (fun x => x.toList.map .loose) s.arguments

/-- The value of a name in arithmetic. -/
def arithmeticValue (name : String) : Act Int := do
  match (← get).value? name with
  | none | some "" => return 0
  | some text =>
    match (Number.literal? text).filter Number.isWord with
    | some n => return n
    | none => if text.toList.all Number.isBlank then return 0 else fail

/-- Arithmetic on the variables. -/
def arithmeticNames : Arithmetic.Names Act where
  get := arithmeticValue
  set name n := assign name (toString n) false
  fail := fail

/-- The result of an arithmetic text. -/
def calculate (text : String) : Act Int :=
  match Arithmetic.ofText? text with
  | some e => Arithmetic.compute arithmeticNames e
  | none => fail

/-- Fails if a parameter without a value must not be used. -/
def checkSet (name : String) (value : Option String) : Act Unit := do
  if value.isNone && (← get).has 'u' && !isAll name then fail

/-- What a use of a parameter stands for, given how words are
expanded. -/
def expandUse (expand : Setting → List Piece → Act (List Glyph))
    (setting : Setting) (name : String) (quoted : Bool) (use : Use) :
    Act (List Glyph) := do
  let s ← get
  let value := s.parameter? name
  let plain (s : Shell) : List Glyph :=
    if isAll name then s.allGlyphs setting name quoted
    else
      match s.parameter? name with
      | some text => valueGlyphs quoted text
      | none => []
  let inner : Setting := { setting with isValue := !quoted }
  let homes (word : List Piece) : List Piece :=
    if setting.homes then s.homesInValue (word.length + 1) word
    else s.homeAtStart false word
  match use with
  | .value =>
    checkSet name value
    return plain s
  | .length =>
    checkSet name value
    return valueGlyphs quoted (toString (value.getD "").length)
  | .fallback kind orEmpty word =>
    let isThere := value.isSome && !(orEmpty && value = some "")
    match kind with
    | .stand =>
      if isThere then return plain s
      else expand inner (homes word)
    | .replace =>
      if isThere then expand inner (homes word)
      else return []
    | .fail => if isThere then return plain s else fail
    | .assign =>
      if isThere then return plain s
      else
        let gs ← expand {} (s.homeAtStart false word)
        if !Script.isName name then fail
        assign name (Glyph.text gs) false
        return plain (← get)
  | .trim side longest pattern =>
    checkSet name value
    let gs ← expand {} (s.homeAtStart false pattern)
    let pattern := Pattern.ofChars (Glyph.marked gs)
    let cs := (value.getD "").toList
    let cs :=
      match side with
      | .front => pattern.trimFront longest cs
      | .back => pattern.trimBack longest cs
    return valueGlyphs quoted (String.ofList cs)
  | .malformed => fail

/-- A text without line ends behind it. -/
def withoutLineEnds (text : String) : String :=
  String.ofList (text.toList.reverse.dropWhile (· = '\n')).reverse

/-- What a piece of a word stands for, given how words are expanded. -/
def expandPiece (substitute : Substitute)
    (expand : Setting → List Piece → Act (List Glyph))
    (setting : Setting) (p : Piece) : Act (List Glyph) := do
  match p with
  | .char c quoted =>
    if setting.isValue && !quoted then return [.loose c]
    else return [.char c quoted]
  | .quote => return [.quote]
  | .arguments => return (← get).allGlyphs setting "@" true
  | .parameter name quoted use => expandUse expand setting name quoted use
  | .substitution body quoted =>
    let text ← substitute body
    return valueGlyphs quoted (withoutLineEnds text)
  | .arithmetic text quoted =>
    let gs ← expand {} text
    let n ← calculate (Glyph.text gs)
    return valueGlyphs quoted (toString n)

/-- What a word stands for, with a bound on how deep words are within
words. -/
def expandGlyphs (substitute : Substitute) :
    Nat → Setting → List Piece → Act (List Glyph)
  | 0, _, _ => fail
  | depth + 1, setting, w => do
    let gs ← w.mapM
      (expandPiece substitute (expandGlyphs substitute depth) setting)
    return gs.flatten

/-- How deep words can be within words. -/
def wordDepth : Nat := 1000

/-! ### Words -/

/-- The fields that a word stands for. -/
def expandFields (substitute : Substitute) (w : List Piece) :
    Act (List String) := do
  let w := (← get).homeAtStart false w
  let gs ← expandGlyphs substitute wordDepth { split := true } w
  return (Fields.split (← get).separators gs).map Glyph.text

/-- The fields that words stand for. -/
def expandAll (substitute : Substitute) (ws : List (List Piece)) :
    Act (List String) := do
  return (← ws.mapM (expandFields substitute)).flatten

/-- What a word stands for that is not cut. -/
def expandWhole (substitute : Substitute) (w : List Piece) :
    Act (List Glyph) := do
  expandGlyphs substitute wordDepth {} ((← get).homeAtStart false w)

/-- The text that a word stands for. -/
def expandText (substitute : Substitute) (w : List Piece) :
    Act String := do
  return Glyph.text (← expandWhole substitute w)

/-- The text that the value of a variable stands for. -/
def expandValue (substitute : Substitute) (w : List Piece) :
    Act String := do
  let w := (← get).homesInValue (w.length + 1) w
  let setting : Setting := { homes := true }
  return Glyph.text (← expandGlyphs substitute wordDepth setting w)

/-- The pattern that a word stands for. -/
def expandPattern (substitute : Substitute) (w : List Piece) :
    Act Pattern := do
  return Pattern.ofChars (Glyph.marked (← expandWhole substitute w))

end RemoteOps.Shell
