/-
The indented text of a JSON value: one element or member a line, two
more blanks at each depth, and nothing between the brackets of a
container that is empty.
-/
import RemoteOps.Json.Printer

namespace RemoteOps.Json

/-- The end of a line and the blanks in front of the next. -/
def lineBreak (depth : Nat) : List Char :=
  '\n' :: List.replicate (2 * depth) ' '

mutual

/-- The characters of the indented text at a depth. -/
def prettyChars (depth : Nat) : Json → List Char
  | array (a :: l) =>
    '[' :: lineBreak (depth + 1) ++ prettyChars (depth + 1) a
      ++ prettyElements (depth + 1) l ++ lineBreak depth ++ [']']
  | object ((k, a) :: l) =>
    Char.ofNat 0x7b :: lineBreak (depth + 1) ++ renderString k
      ++ ':' :: ' ' :: prettyChars (depth + 1) a
      ++ prettyMembers (depth + 1) l ++ lineBreak depth
      ++ [Char.ofNat 0x7d]
  | a => renderChars a

/-- The elements after the first, each on its line. -/
def prettyElements (depth : Nat) : List Json → List Char
  | [] => []
  | a :: l =>
    ',' :: lineBreak depth ++ prettyChars depth a
      ++ prettyElements depth l

/-- The members after the first, each on its line. -/
def prettyMembers (depth : Nat) : List (String × Json) → List Char
  | [] => []
  | (k, a) :: l =>
    ',' :: lineBreak depth ++ renderString k ++ ':' :: ' ' ::
      prettyChars depth a ++ prettyMembers depth l

end

/-- The indented text of a value. -/
def pretty (a : Json) : String := String.ofList (prettyChars 0 a)

end RemoteOps.Json
