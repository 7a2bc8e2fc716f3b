/-
The status of an operation and its life cycle: pending, then executing,
then successful or failed; a pending operation that nobody can take
fails without being executed.

* `Status.ofName?_eq_some_iff`: a name is accepted if it is the name of
  a status, and of that status only;
* `Status.canBecome_isTerminal`: nothing follows a terminal status;
* `Status.rank_lt_of_canBecome`: the life cycle has no way back.
-/
import RemoteOps.Json.Decode

namespace RemoteOps

/-- The status of an operation. -/
inductive Status where
  | pending
  | executing
  | successful
  | failed
deriving DecidableEq, Repr, Inhabited

namespace Status

/-- Every status, in the order of the life cycle. -/
def all : List Status := [pending, executing, successful, failed]

/-- The name of a status. -/
def name : Status → String
  | pending => "PENDING"
  | executing => "EXECUTING"
  | successful => "SUCCESSFUL"
  | failed => "FAILED"

/-- Whether a status is final. -/
def isTerminal : Status → Bool
  | successful | failed => true
  | pending | executing => false

/-- Whether the life cycle has a step from one status to another. -/
def canBecome : Status → Status → Bool
  | pending, executing => true
  | pending, failed => true
  | executing, successful => true
  | executing, failed => true
  | _, _ => false

/-- How far a status is in the life cycle. -/
def rank : Status → Nat
  | pending => 0
  | executing => 1
  | successful | failed => 2

/-- The statuses that can follow, in the order of the life cycle. -/
def reachable (s : Status) : List Status := all.filter s.canBecome

/-- The status of a name. -/
def ofName? (s : String) : Option Status :=
  all.find? fun status => status.name = s

/-- The message for a name that no status has. -/
def unknownMessage (s : String) : String :=
  "unknown operation status: " ++ s

/-- Decodes a name. -/
def ofName (s : String) : Except DecodeError Status :=
  match ofName? s with
  | some status => .ok status
  | none => .error (.unknownVariant s (all.map name))

/-- Decodes a status: its name, or an object with the name as its only
key and null as the value. -/
def ofJson : Json → Except DecodeError Status
  | .string s => ofName s
  | .object [(s, a)] => do
    let status ← ofName s
    match a with
    | .null => return status
    | a => throw (a.mismatch "unit")
  | .object members =>
    .error (.wrongValue (Json.object members).describe
      "map with a single key")
  | a => .error (a.mismatch "string or map")

/-- The JSON value of a status: its name. -/
def toJson (s : Status) : Json := .string s.name

theorem ofName?_eq_some_iff {s : String} {status : Status} :
    ofName? s = some status ↔ s = status.name := by
  constructor
  · intro h
    have := List.find?_some h
    simpa using (of_decide_eq_true this).symm
  · rintro rfl
    cases status <;> decide

theorem canBecome_isTerminal {s t : Status} (h : s.isTerminal = true) :
    s.canBecome t = false := by
  cases s <;> simp_all [isTerminal, canBecome]

theorem rank_lt_of_canBecome {s t : Status} (h : s.canBecome t = true) :
    s.rank < t.rank := by
  cases s <;> cases t <;> simp_all [canBecome, rank]

end Status

end RemoteOps
