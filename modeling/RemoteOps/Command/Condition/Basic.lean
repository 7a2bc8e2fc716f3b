/-
Conditions on words and files: what one operator says of its operands.

A condition holds, does not hold or is malformed.  How the words of a
condition are read is told elsewhere, in two ways: by their number, or
one after the other.

* `Condition.code_le_two`: the exit status of a condition.
-/
import RemoteOps.Command.Files
import RemoteOps.Command.Number

namespace RemoteOps.Condition

/-- The files that a condition speaks about. -/
structure Setting where
  files : Files
  /-- The directory in which the path of a file starts. -/
  working : String

namespace Setting

/-- What a sign says about a file. -/
def says? (s : Setting) (sign : Char) (path : String) : Bool :=
  s.files.says? s.working sign path

/-- Whether a file is there. -/
def has (s : Setting) (path : String) : Bool := s.says? 'e' path

/-- Whether two paths lead to the same file. -/
def same (s : Setting) (x y : String) : Bool :=
  s.files.same s.working x y

end Setting

/-- What a comparison of two numbers asks for. -/
def compare? (op : String) : Option (Int → Int → Bool) :=
  match op with
  | "-eq" => some (· = ·)
  | "-ne" => some (· ≠ ·)
  | "-lt" => some (· < ·)
  | "-le" => some (· ≤ ·)
  | "-gt" => some (· > ·)
  | "-ge" => some (· ≥ ·)
  | _ => none

/-- The signs of operators on one file. -/
def fileSigns : List Char :=
  ['e', 'f', 'd', 'c', 'b', 'p', 'u', 'g', 'k', 's', 'h', 'L', 'O', 'G',
    'S', 'r', 'w', 'x']

/-- The sign of an operator that is a hyphen and one character. -/
def sign? (op : String) : Option Char :=
  match op.toList with
  | ['-', c] => some c
  | _ => none

/-- What an operator says of one word; numbers are read as given.  No
descriptor is a terminal. -/
def unary? (number? : String → Option Int) (s : Setting) (op x : String) :
    Option Bool :=
  match sign? op with
  | some 'n' => some (x ≠ "")
  | some 'z' => some (x = "")
  | some 't' => (number? x).map fun _ => false
  | some c => if fileSigns.contains c then some (s.says? c x) else none
  | none => none

/-- The exit status for a condition. -/
def code : Option Bool → Nat
  | some true => 0
  | some false => 1
  | none => 2

theorem code_le_two (r : Option Bool) : code r ≤ 2 := by
  unfold code
  split <;> decide

end RemoteOps.Condition
