/-
Reading an operation from JSON text.

The text is decoded while it is read, so of a break of the grammar and a
value of the wrong shape the one that comes first in the text is
reported.  An operation is an object, whose unknown members are skipped,
or an array of its fields.  No field may come twice; in the fragments
the last of two members with one name stays.
-/
import RemoteOps.Json.Reader
import RemoteOps.Operation.Basic

namespace RemoteOps.Operation

open Json (skipBlanks readValue readWord readString readKey readColon
  readComma? openContainer skipValue fuelFor readEnd maxDepth)

/-- The opening bracket of objects. -/
def openBrace : Char := Char.ofNat 0x7b

/-- The closing bracket of objects. -/
def closeBrace : Char := Char.ofNat 0x7d

/-- The fault of a value that is of another type than the one that is
expected: an atom is read to its end first, and may be malformed. -/
def wrongType (cs : List Char) : TextFault :=
  if cs.head? = some '[' || cs.head? = some openBrace then .mistyped
  else
    match readValue 1 0 cs with
    | .ok _ => .mistyped
    | .error fault => fault

/-! ### Fields -/

/-- Reads a text. -/
def readText : Scan String := fun cs =>
  match skipBlanks cs with
  | '"' :: cs => readString cs
  | cs => .error (wrongType cs)

/-- Reads a text or null. -/
def readTextOrNull : Scan (Option String) := fun cs =>
  match skipBlanks cs with
  | 'n' :: cs => do
    let ((), cs) ← readWord ['u', 'l', 'l'] cs
    return (none, cs)
  | cs => do
    let (s, cs) ← readText cs
    return (some s, cs)

/-- Reads null. -/
def readNull : Scan Unit := fun cs =>
  match skipBlanks cs with
  | 'n' :: cs => readWord ['u', 'l', 'l'] cs
  | cs => .error (wrongType cs)

/-- Reads the name of a status. -/
def readStatusName : Scan Status := fun cs => do
  let (s, cs) ← readText cs
  match Status.ofName? s with
  | some status => return (status, cs)
  | none => throw .mistyped

/-- Drops the closing bracket of an object. -/
def readClose : Scan Unit := fun cs =>
  match skipBlanks cs with
  | [] => .error .truncated
  | c :: cs => if c = closeBrace then .ok ((), cs) else .error .malformed

/-- Reads a status: its name, or an object with the name as its only key
and null as the value. -/
def readStatus (depth : Nat) : Scan Status := fun cs =>
  match skipBlanks cs with
  | [] => .error .truncated
  | c :: cs =>
    if c = '"' then readStatusName (c :: cs)
    else if c = openBrace then do
      let _ ← openContainer depth
      let (status, cs) ← readStatusName cs
      let ((), cs) ← readColon cs
      let ((), cs) ← readNull cs
      let ((), cs) ← readClose cs
      return (status, cs)
    else .error .malformed

/-- Reads the fragments. -/
def readFragments (fuel depth : Nat) : Scan (Dict Json) := fun cs =>
  match skipBlanks cs with
  | c :: cs =>
    if c = openBrace then do
      let depth ← openContainer depth
      let (l, cs) ← Json.readMembers fuel depth true cs
      return (Dict.ofList l, cs)
    else .error (wrongType (c :: cs))
  | [] => .error .truncated

/-! ### Operations -/

/-- Whether a field is read already. -/
def Fields.has (f : Fields) (name : String) : Bool :=
  match name with
  | "id" => f.id.isSome
  | "status" => f.status.isSome
  | "fragments" => f.fragments.isSome
  | "failure_reason" => f.failureReason.isSome
  | _ => false

/-- Reads the value of one member. -/
def Fields.readValue (f : Fields) (fuel depth : Nat) (name : String) :
    Scan Fields := fun cs =>
  match name with
  | "id" => do
    let (id, cs) ← readText cs
    return ({ f with id := some id }, cs)
  | "status" => do
    let (status, cs) ← readStatus depth cs
    return ({ f with status := some status }, cs)
  | "fragments" => do
    let (fragments, cs) ← readFragments fuel depth cs
    return ({ f with fragments := some fragments }, cs)
  | "failure_reason" => do
    let (reason, cs) ← readTextOrNull cs
    return ({ f with failureReason := some reason }, cs)
  | _ => do
    let ((), cs) ← skipValue fuel cs
    return (f, cs)

/-- Reads the members of an operation. -/
def readFields (depth : Nat) : Nat → Bool → Fields → Scan Fields
  | 0, _, _, _ => .error .malformed
  | fuel + 1, first, f, cs => do
    match ← readComma? closeBrace first cs with
    | (false, cs) => return (f, cs)
    | (true, cs) =>
      let (name, cs) ← readKey cs
      if f.has name then throw .mistyped
      let ((), cs) ← readColon cs
      let (f, cs) ← f.readValue fuel depth name cs
      readFields depth fuel false f cs

/-- Reads an operation that is an object, after its bracket. -/
def readObject (fuel depth : Nat) : Scan Operation := fun cs => do
  let (f, cs) ← readFields depth fuel true {} cs
  match f.id, f.status with
  | some id, some status =>
    return (⟨id, status, f.fragments.getD .empty,
      f.failureReason.getD none⟩, cs)
  | _, _ => throw .mistyped

/-- Drops the closing bracket of an array that must be full. -/
def readFull : Scan Unit := fun cs =>
  match skipBlanks cs with
  | [] => .error .truncated
  | ']' :: cs => .ok ((), cs)
  | _ => .error .malformed

/-- Reads an operation that is an array, after its bracket.  The last
two fields may be missing. -/
def readArray (fuel depth : Nat) : Scan Operation := fun cs => do
  let (true, cs) ← readComma? ']' true cs | throw .mistyped
  let (id, cs) ← readText cs
  let (true, cs) ← readComma? ']' false cs | throw .mistyped
  let (status, cs) ← readStatus depth cs
  match ← readComma? ']' false cs with
  | (false, cs) => return (⟨id, status, .empty, none⟩, cs)
  | (true, cs) =>
    let (fragments, cs) ← readFragments fuel depth cs
    match ← readComma? ']' false cs with
    | (false, cs) => return (⟨id, status, fragments, none⟩, cs)
    | (true, cs) =>
      let (reason, cs) ← readTextOrNull cs
      let ((), cs) ← readFull cs
      return (⟨id, status, fragments, reason⟩, cs)

/-- Reads an operation. -/
def read (fuel depth : Nat) : Scan Operation := fun cs =>
  match skipBlanks cs with
  | [] => .error .truncated
  | c :: cs =>
    if c = '[' then do readArray fuel (← openContainer depth) cs
    else if c = openBrace then do
      readObject fuel (← openContainer depth) cs
    else .error (wrongType (c :: cs))

/-- The operation that a text holds. -/
def ofText (s : String) : Except TextFault Operation := do
  let cs := s.toList
  let (o, cs) ← read (fuelFor cs) maxDepth cs
  readEnd cs
  return o

end RemoteOps.Operation
