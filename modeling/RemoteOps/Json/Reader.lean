/-
Reading and skipping JSON values.

`depth` counts how many containers may still be opened: a container that
would use up the last one is malformed.  Skipping has no such limit.
The pieces of containers (`readComma?`, `readColon`) serve every reader
of objects and arrays, those of values and those of records.
-/
import RemoteOps.Json.Scan

namespace RemoteOps.Json

/-- The number of containers, less one, that may be open at once. -/
def maxDepth : Nat := 128

/-- Opens a container: the depth that is left inside. -/
def openContainer (depth : Nat) : Except TextFault Nat :=
  if depth ≤ 1 then .error .malformed else .ok (depth - 1)

/-- Looks for the next piece of a container closed by `close`: `true` if
there is one, whose first character is then the next; `false` at the
closing bracket, which is dropped.  A comma stands between pieces. -/
def readComma? (close : Char) (first : Bool) : Scan Bool := fun cs =>
  match skipBlanks cs with
  | [] => .error .truncated
  | c :: cs =>
    if c = close then .ok (false, cs)
    else if c = ',' && !first then
      match skipBlanks cs with
      | [] => .error .truncated
      | d :: cs =>
        if d = close then .error .malformed else .ok (true, d :: cs)
    else if first then .ok (true, c :: cs)
    else .error .malformed

/-- Drops the colon after a key. -/
def readColon : Scan Unit := fun cs =>
  match skipBlanks cs with
  | [] => .error .truncated
  | ':' :: cs => .ok ((), cs)
  | _ => .error .malformed

/-- Reads a key. -/
def readKey : Scan String
  | '"' :: cs => readString cs
  | _ => .error .malformed

mutual

/-- Reads a value. -/
def readValue : Nat → Nat → Scan Json
  | 0, _, _ => .error .malformed
  | fuel + 1, depth, cs =>
    match skipBlanks cs with
    | [] => .error .truncated
    | 'n' :: cs => do
      let ((), cs) ← readWord ['u', 'l', 'l'] cs
      return (null, cs)
    | 't' :: cs => do
      let ((), cs) ← readWord ['r', 'u', 'e'] cs
      return (bool true, cs)
    | 'f' :: cs => do
      let ((), cs) ← readWord ['a', 'l', 's', 'e'] cs
      return (bool false, cs)
    | '"' :: cs => do
      let (s, cs) ← readString cs
      return (string s, cs)
    | '[' :: cs => do
      let depth ← openContainer depth
      let (l, cs) ← readElements fuel depth true cs
      return (array l, cs)
    | '-' :: cs => readNumber true cs
    | c :: cs =>
      if c.toNat = 0x7b then do
        let depth ← openContainer depth
        let (l, cs) ← readMembers fuel depth true cs
        return (ofMembers l, cs)
      else if isDigit c then readNumber false (c :: cs)
      else .error .malformed

/-- Reads the elements of an array. -/
def readElements : Nat → Nat → Bool → Scan (List Json)
  | 0, _, _, _ => .error .malformed
  | fuel + 1, depth, first, cs => do
    match ← readComma? ']' first cs with
    | (false, cs) => return ([], cs)
    | (true, cs) =>
      let (a, cs) ← readValue fuel depth cs
      let (l, cs) ← readElements fuel depth false cs
      return (a :: l, cs)

/-- Reads the members of an object, in the order of the text. -/
def readMembers : Nat → Nat → Bool → Scan (List (String × Json))
  | 0, _, _, _ => .error .malformed
  | fuel + 1, depth, first, cs => do
    match ← readComma? (Char.ofNat 0x7d) first cs with
    | (false, cs) => return ([], cs)
    | (true, cs) =>
      let (k, cs) ← readKey cs
      let ((), cs) ← readColon cs
      let (a, cs) ← readValue fuel depth cs
      let (l, cs) ← readMembers fuel depth false cs
      return ((k, a) :: l, cs)

end

mutual

/-- Skips a value. -/
def skipValue : Nat → Scan Unit
  | 0, _ => .error .malformed
  | fuel + 1, cs =>
    match skipBlanks cs with
    | [] => .error .truncated
    | 'n' :: cs => readWord ['u', 'l', 'l'] cs
    | 't' :: cs => readWord ['r', 'u', 'e'] cs
    | 'f' :: cs => readWord ['a', 'l', 's', 'e'] cs
    | '"' :: cs => skipString cs
    | '[' :: cs => skipElements fuel true cs
    | '-' :: cs => do return ((), ← skipNumber cs)
    | c :: cs =>
      if c.toNat = 0x7b then skipMembers fuel true cs
      else if isDigit c then do return ((), ← skipNumber (c :: cs))
      else .error .malformed

/-- Skips the elements of an array. -/
def skipElements : Nat → Bool → Scan Unit
  | 0, _, _ => .error .malformed
  | fuel + 1, first, cs => do
    match ← readComma? ']' first cs with
    | (false, cs) => return ((), cs)
    | (true, cs) =>
      let ((), cs) ← skipValue fuel cs
      skipElements fuel false cs

/-- Skips the members of an object. -/
def skipMembers : Nat → Bool → Scan Unit
  | 0, _, _ => .error .malformed
  | fuel + 1, first, cs => do
    match ← readComma? (Char.ofNat 0x7d) first cs with
    | (false, cs) => return ((), cs)
    | (true, '"' :: cs) =>
      let ((), cs) ← skipString cs
      let ((), cs) ← readColon cs
      let ((), cs) ← skipValue fuel cs
      skipMembers fuel false cs
    | (true, _) => .error .malformed

end

/-- Enough fuel for a text: a reader calls itself at most twice for each
character that it drops. -/
def fuelFor (cs : List Char) : Nat := 2 * cs.length + 2

/-- Nothing but blanks may follow. -/
def readEnd (cs : List Char) : Except TextFault Unit :=
  if (skipBlanks cs).isEmpty then .ok () else .error .malformed

/-- The value of a text, with a bound on the depth of its containers. -/
def parse (depth : Nat) (s : String) : Except TextFault Json := do
  let cs := s.toList
  let (a, cs) ← readValue (fuelFor cs) depth cs
  readEnd cs
  return a

end RemoteOps.Json
