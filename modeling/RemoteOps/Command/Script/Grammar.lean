/-
Commands of a script as they are read from its text.

A script is read line by line: what is wrong further down does not
matter before it is reached.  A line goes on for as long as a command
in it does.

* `Script.line?_nil`: a script without text has no line.
-/
import RemoteOps.Command.Script.Token

namespace RemoteOps.Script

/-- How the parts of a command are read. -/
structure Parts where
  nested : Nested
  /-- A list of commands, which may be empty. -/
  list : Bool → Reading (Option Command)
  command : Reading Command

namespace Parts

/-! ### Steps -/

/-- How many tokens can follow; short names may stand for some of
them. -/
def boundOf (cs : List Char) : Nat := cs.length + 1000

/-- How many tokens can follow. -/
def bound : Reading Nat := return boundOf (← get).rest

variable (p : Parts)

/-- Reads a token. -/
def token : Reading Token := next p.nested

/-- Reads a sign. -/
def expectSign (s : Sign) : Reading Unit := do
  match ← p.token with
  | .sign s' => guard (s' = s)
  | _ => failure

/-- Reads a keyword. -/
def expect (k : Keyword) : Reading Unit := do
  guard ((← p.token).keyword? = some k)

/-- Reads a keyword where a command can start, after line ends. -/
def expectStart (k : Keyword) : Reading Unit := do
  let _ ← peekStart p.nested true
  p.expect k

/-- Reads a list that is not empty. -/
def body : Reading Command := do
  match ← p.list false with
  | some c => return c
  | none => failure

/-! ### Redirections -/

/-- The lines of a text up to a given one, and what follows it. -/
def documentLines (strip : Bool) (ending : List Char) :
    List (List Char) → List (List Char) × List (List Char)
  | [] => ([], [])
  | l :: ls =>
    let l := if strip then l.dropWhile (· = '\t') else l
    if l = ending then ([], ls)
    else
      let (text, rest) := documentLines strip ending ls
      (l :: text, rest)

/-- Takes the text that is given to a command out of the script: it
starts at the next line and ends before a given one. -/
def takeDocument (strip : Bool) (ending : String) (cs : List Char) :
    List Char × List Char :=
  let line := cs.takeWhile (· ≠ '\n')
  match cs.drop line.length with
  | [] => ([], cs)
  | _ :: after =>
    let lines := after.splitOn '\n'
    let (lines, closed) :=
      if lines.getLast? = some [] then (lines.dropLast, true)
      else (lines, false)
    let (text, rest) := documentLines strip ending.toList lines
    let lastOpen := !closed && rest.isEmpty
      && text.length = lines.length
    let whole := (text.map (· ++ ['\n'])).flatten
    let rest := (rest.map ('\n' :: ·)).flatten
    (if lastOpen then whole.dropLast else whole, line ++ '\n' :: rest.tail)

/-- Reads what follows a sign of redirection. -/
def redirection (fd : Nat) (arrow : Arrow) : Reading Redirection := do
  match ← p.token with
  | .word w =>
    match arrow with
    | .file mode => return .file fd mode w
    | .duplicate => return .duplicate fd w
    | .document strip =>
      let cursor ← get
      let (text, rest) := takeDocument strip (bareText w) cursor.rest
      set { cursor with rest }
      if isQuoted w then return .document fd (text.map (.char · true))
      else
        match readWord p.nested .document text with
        | some (w, _) => return .document fd w
        | none => failure
  | _ => failure

/-- Reads redirections for as long as there are some. -/
def redirections : Nat → Reading (List Redirection)
  | 0 => return []
  | fuel + 1 => do
    match ← peekStart p.nested false with
    | .arrow fd arrow =>
      let _ ← p.token
      let r ← p.redirection fd arrow
      return r :: (← redirections fuel)
    | _ => return []

/-! ### Simple commands -/

/-- Names that cannot be given to a definition. -/
def reservedNames : List String :=
  [".", ":", "break", "continue", "eval", "exec", "exit", "export",
    "local", "readonly", "return", "set", "shift", "times", "trap",
    "unset"]

/-- Reads the rest of a definition, after the opening bracket. -/
def definition (w : Word) : Reading Command := do
  p.expectSign .closing
  match plainText? w with
  | some name =>
    guard (isName name && !reservedNames.contains name)
    let _ ← peekStart p.nested true
    return .definition name (← p.command)
  | none => failure

/-- Reads a simple command, of which some parts have been read; the last
ones come first. -/
def simple : Nat → List (String × Word) → List Word → List Redirection →
    Reading Command
  | 0, _, _, _ => failure
  | fuel + 1, assignments, words, redirs => do
    let done : Command :=
      .simple assignments.reverse words.reverse redirs.reverse
    let (t, place) ←
      if words.isEmpty then startToken p.nested else nextAt p.nested
    match t with
    | .word w =>
      match words.isEmpty, assignment? w with
      | true, some a => simple fuel (a :: assignments) words redirs
      | _, _ => simple fuel assignments (w :: words) redirs
    | .arrow fd arrow =>
      let r ← p.redirection fd arrow
      simple fuel assignments words (r :: redirs)
    | .sign .opening =>
      match assignments, words, redirs with
      | [], [w], [] => p.definition w
      | _, _, _ =>
        putBack t place
        return done
    | t =>
      putBack t place
      return done

/-! ### Compound commands -/

/-- Reads a condition after its keyword, up to its end. -/
def conditional : Nat → Reading Command
  | 0 => failure
  | fuel + 1 => do
    let test ← p.body
    p.expect .thenDo
    let body ← p.body
    match (← p.token).keyword? with
    | some .elseIf => return .conditional test body (← conditional fuel)
    | some .otherwise =>
      let otherwise ← p.body
      p.expect .conditionClose
      return .conditional test body otherwise
    | some .conditionClose => return .conditional test body none
    | _ => failure

/-- Reads a loop after its keyword, up to its end. -/
def loop (whileFails : Bool) : Reading Command := do
  let test ← p.body
  p.expect .doing
  let body ← p.body
  p.expect .done
  return .loop whileFails test body

/-- Reads words up to the end of a line or a semicolon. -/
def wordList : Nat → Reading (List Word)
  | 0 => failure
  | fuel + 1 => do
    match ← p.token with
    | .word w => return w :: (← wordList fuel)
    | .sign .newline | .sign .semicolon => return []
    | _ => failure

/-- Reads a loop over words after its keyword, up to its end. -/
def each (fuel : Nat) : Reading Command := do
  match ← p.token with
  | .word w =>
    match plainText? w with
    | some name =>
      guard (isName name)
      let t ← peekStart p.nested true
      let words : List Word ←
        if t.keyword? = some .inside then do
          let _ ← p.token
          p.wordList fuel
        else do
          match t with
          | .sign .semicolon => let _ ← p.token
          | _ => pure ()
          pure [[.arguments]]
      p.expectStart .doing
      let body ← p.body
      p.expect .done
      return .each name words body
    | none => failure
  | _ => failure

/-- Reads the patterns of a case, of which the first token is given, up
to the closing bracket. -/
def patterns : Nat → Token → Reading (List Word)
  | 0, _ => failure
  | fuel + 1, t => do
    match t with
    | .word w =>
      match ← p.token with
      | .sign .bar => return w :: (← patterns fuel (← p.token))
      | .sign .closing => return [w]
      | _ => failure
    | _ => failure

/-- Reads cases up to the end of a choice. -/
def cases : Nat → Reading (List (List Word × Option Command))
  | 0 => failure
  | fuel + 1 => do
    let (t, _) ← nextLine p.nested (← bound)
    if t.keyword? = some .caseClose then return []
    let t ←
      match t with
      | .sign .opening => p.token
      | t => pure t
    let patterns ← p.patterns (fuel + 1) t
    let body ← p.list true
    let (t, _) ← nextLine p.nested (← bound)
    match t with
    | .sign .caseEnd => return (patterns, body) :: (← cases fuel)
    | t =>
      guard (t.keyword? = some .caseClose)
      return [(patterns, body)]

/-- Reads a choice after its keyword, up to its end. -/
def choice (fuel : Nat) : Reading Command := do
  match ← p.token with
  | .word w =>
    p.expectStart .inside
    return .choice w (← p.cases fuel)
  | _ => failure

/-- Reads a command. -/
def readCommand : Reading Command := do
  let fuel ← bound
  let (t, place) ← nextAt p.nested
  let compound : Option (Reading Command) :=
    match t with
    | .sign .opening => some do
      let body ← p.body
      p.expectSign .closing
      return .subshell body []
    | t =>
      match t.keyword? with
      | some .ifThat => some (p.conditional fuel)
      | some .whileThat => some (p.loop false)
      | some .untilThat => some (p.loop true)
      | some .forEach => some (p.each fuel)
      | some .caseOf => some (p.choice fuel)
      | some .opening => some do
        let body ← p.body
        p.expect .closing
        return body
      | _ => none
  match compound, t with
  | some read, _ =>
    let body ← read
    let redirs ← p.redirections fuel
    match body, redirs with
    | .subshell body _, redirs => return .subshell body redirs
    | body, [] => return body
    | body, redirs => return .redirected body redirs
  | none, .word _ | none, .arrow _ _ =>
    guard t.keyword?.isNone
    putBack t place
    p.simple fuel [] [] []
  | none, _ => failure

/-! ### Lists -/

/-- Reads the further stages of a pipeline. -/
def stages : Nat → Reading (List Command)
  | 0 => failure
  | fuel + 1 => do
    let (t, place) ← nextAt p.nested
    match t with
    | .sign .bar =>
      let _ ← peekStart p.nested true
      let c ← p.readCommand
      return c :: (← stages fuel)
    | t =>
      putBack t place
      return []

/-- Reads a pipeline, whose status may be turned around. -/
def pipeline (fuel : Nat) : Reading Command := do
  let (t, place) ← nextAt p.nested
  let negated := t.keyword? = some .bang
  if negated then
    let _ ← peekStart p.nested false
  else putBack t place
  let first ← p.readCommand
  let others ← p.stages fuel
  let c : Command :=
    if others.isEmpty then first else .pipeline (first :: others) false
  return if negated then .negated c else c

/-- Goes on with pipelines that depend on what came before. -/
def linked : Nat → Command → Reading Command
  | 0, _ => failure
  | fuel + 1, c => do
    let (t, place) ← nextAt p.nested
    let go (join : Command → Command → Command) : Reading Command := do
      let _ ← peekStart p.nested true
      let d ← p.pipeline (fuel + 1)
      linked fuel (join c d)
    match t with
    | .sign .andIf => go .both
    | .sign .orIf => go .either
    | t =>
      putBack t place
      return c

/-- Reads pipelines of which one depends on the other. -/
def andOr (fuel : Nat) : Reading Command := do
  p.linked fuel (← p.pipeline fuel)

/-- A command that runs beside what follows. -/
def inBackground : Command → Command
  | .pipeline stages _ => .pipeline stages true
  | c => .background c

/-- Puts a command behind others. -/
def append (first : Option Command) (second : Command) : Command :=
  match first with
  | some c => .sequence c second
  | none => second

/-- Reads a list of commands within another command, behind those that
have been read. -/
def readList (mayEnd : Bool) : Nat → Option Command →
    Reading (Option Command)
  | 0, _ => failure
  | fuel + 1, before => do
    let t ← peekStart p.nested true
    let isEnding := match t with | .ending => true | _ => false
    if isEnding || mayEnd && t.endsList then return before
    let c ← p.andOr (fuel + 1)
    let (t, place) ← nextAt p.nested
    match t with
    | .sign .ampersand =>
      readList true fuel (some (append before (inBackground c)))
    | .sign .semicolon => readList true fuel (some (append before c))
    | .sign .newline =>
      putBack t place
      readList true fuel (some (append before c))
    | t =>
      putBack t place
      return some (append before c)

/-- Reads the commands of a line, behind those that have been read, and
whether the script ends there. -/
def readLine : Nat → Option Command →
    Reading (Option (Option Command × Bool))
  | 0, _ => failure
  | fuel + 1, before => do
    match ← peekStart p.nested false with
    | .sign .newline =>
      let _ ← p.token
      return some (before, false)
    | .ending => return before.map fun c => (some c, true)
    | _ =>
      let c ← p.andOr (fuel + 1)
      let (t, place) ← nextAt p.nested
      match t with
      | .sign .ampersand =>
        readLine fuel (some (append before (inBackground c)))
      | .sign .semicolon => readLine fuel (some (append before c))
      | .sign .newline =>
        putBack t place
        readLine fuel (some (append before c))
      | .ending => return some (some (append before c), true)
      | _ => failure

end Parts

/-! ### Depth -/

/-- How commands within words are read, given how lists are. -/
def Nested.ofList (aliases : Dict String)
    (list : Bool → Reading (Option Command)) : Nested where
  enclosed cs := do
    let (body, cursor) ← (list true).run { rest := cs, aliases }
    match cursor.pushed with
    | some (.sign .closing, _) => return (body, cursor.rest)
    | _ => none
  whole cs := do
    let (body, _) ← (list true).run { rest := cs, aliases }
    return body

mutual

/-- Reads a list of commands within a command of some depth. -/
def listOf (aliases : Dict String) : Nat → Bool →
    Reading (Option Command)
  | 0, _ => failure
  | depth + 1, mayEnd => do
    let list := listOf aliases depth
    let p : Parts :=
      ⟨.ofList aliases list, list, commandOf aliases depth⟩
    p.readList mayEnd (← Parts.bound) none

/-- Reads a command of some depth. -/
def commandOf (aliases : Dict String) : Nat → Reading Command
  | 0 => failure
  | depth + 1 =>
    let list := listOf aliases depth
    let p : Parts :=
      ⟨.ofList aliases list, list, commandOf aliases depth⟩
    p.readCommand

end

/-- A line of a script. -/
inductive Line where
  /-- The grammar is broken here. -/
  | broken
  /-- There is no line left. -/
  | ended
  /-- Commands, what follows them, and whether the script ends just
  there. -/
  | commands (c : Option Command) (last : Bool) (rest : List Char)

/-- The next line of a script. -/
def line (aliases : Dict String) (cs : List Char) : Line :=
  let depth := 4 * cs.length + 16
  let list := listOf aliases depth
  let p : Parts := ⟨.ofList aliases list, list, commandOf aliases depth⟩
  match (p.readLine (Parts.boundOf cs) none).run { rest := cs, aliases } with
  | none => .broken
  | some (none, _) => .ended
  | some (some (c, last), cursor) => .commands c last cursor.rest

end RemoteOps.Script
