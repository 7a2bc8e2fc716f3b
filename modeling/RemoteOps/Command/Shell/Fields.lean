/-
Fields: how what a word stands for is cut into words.

Only what comes from a value can be cut.  Separators that are blanks
count as one and vanish at the ends; every other separator ends a field,
even an empty one.  Arguments that are kept apart end fields of their
own.

* `Fields.split_fixed`: a text that cannot be cut stays one field.
-/

namespace RemoteOps

/-- A part of what a word stands for. -/
inductive Glyph where
  /-- A character that is never a separator. -/
  | char (c : Char) (quoted : Bool)
  /-- A character of a value, which can be a separator. -/
  | loose (c : Char)
  /-- A quote: the word is there even if it is empty. -/
  | quote
  /-- The end of an argument. -/
  | cut
  /-- A value starts, which may be of arguments that are kept apart. -/
  | edge (apart : Bool)
deriving DecidableEq, Repr

namespace Glyph

/-- The character of a part, if it is one. -/
def char? : Glyph → Option Char
  | .char c _ | .loose c => some c
  | _ => none

/-- The text of what a word stands for. -/
def text (gs : List Glyph) : String := String.ofList (gs.filterMap char?)

/-- The characters of what a word stands for, and whether each is
quoted. -/
def marked (gs : List Glyph) : List (Char × Bool) :=
  gs.filterMap fun g =>
    match g with
    | .char c quoted => some (c, quoted)
    | .loose c => some (c, false)
    | _ => none

/-- A text that is quoted. -/
def quoted (s : String) : List Glyph := s.toList.map (.char · true)

/-- A text that can be cut. -/
def value (s : String) : List Glyph :=
  .edge false :: s.toList.map .loose

end Glyph

namespace Fields

/-- The blanks among separators. -/
def isBlank (c : Char) : Bool := c = ' ' || c = '\t' || c = '\n'

/-- The separators if none are given. -/
def usual : String := " \t\n"

/-- Fields that are being made. -/
structure State where
  /-- The fields that are done, the last first. -/
  done : List (List Glyph) := []
  /-- The parts of the current field, the last first. -/
  current : List Glyph := []
  /-- Whether the last value is of arguments that are kept apart, and
  the one before it. -/
  apart : Bool := false
  wasApart : Bool := false
  /-- Whether the last separator was a blank. -/
  blank : Bool := false
  /-- Whether the last part was a separator, so that blanks are left
  out. -/
  skipping : Bool := false

/-- Goes on with a part of the current field. -/
def State.push (s : State) (g : Glyph) : State :=
  { s with current := g :: s.current, skipping := false }

/-- Ends the current field. -/
def State.finish (s : State) : State :=
  { s with done := s.current.reverse :: s.done, current := [] }

/-- Goes on with a separator. -/
def State.separate (s : State) (isBlank : Bool) : State :=
  if s.skipping && isBlank then s
  else if s.skipping && s.blank then { s with blank := false }
  else
    let blank := if s.wasApart || s.apart then s.blank else isBlank
    let s := { s with blank, skipping := false }
    if s.current.isEmpty && blank then s
    else { s.finish with skipping := !s.apart }

/-- A value starts, which may be of arguments that are kept apart. -/
def State.begin (s : State) (apart : Bool) : State :=
  { s with apart, wasApart := s.apart, blank := false, skipping := false }

/-- Goes on with a part. -/
def State.step (separators : String) (s : State) (g : Glyph) : State :=
  match g with
  | .edge apart => s.begin apart
  | .loose c =>
    let s := if s.apart then s.begin false else s
    if separators.toList.contains c then s.separate (isBlank c)
    else s.push g
  | .cut => s.separate true
  | g => s.push g

/-- The fields that parts are cut into. -/
def split (separators : String) (gs : List Glyph) : List (List Glyph) :=
  let s := gs.foldl (State.step separators) {}
  let s := if s.apart || !s.current.isEmpty then s.finish else s
  s.done.reverse

theorem foldl_step_fixed (separators : String) (cs : List Char)
    (s : State) :
    (cs.map (Glyph.char · true)).foldl (State.step separators) s =
      match cs with
      | [] => s
      | _ :: _ =>
        { s with
          current := (cs.map (Glyph.char · true)).reverse ++ s.current
          skipping := false } := by
  induction cs generalizing s with
  | nil => rfl
  | cons c cs ih =>
    rw [List.map_cons, List.foldl_cons, ih]
    have hstep : State.step separators s (Glyph.char c true)
        = s.push (Glyph.char c true) := rfl
    cases cs with
    | nil => rfl
    | cons d cs =>
      rw [hstep, State.push, List.reverse_cons, List.append_assoc]
      rfl

theorem split_fixed (separators : String) {s : String} (h : s ≠ "") :
    split separators (Glyph.quoted s) = [Glyph.quoted s] := by
  unfold split Glyph.quoted
  rw [foldl_step_fixed]
  cases hs : s.toList with
  | nil => exact absurd (String.toList_eq_nil_iff.mp hs) h
  | cons c cs => simp [State.finish]

end Fields

end RemoteOps
