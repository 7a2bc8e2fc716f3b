/-
The compact text of a JSON value: no blanks, members in the order of
their keys, doubles in their shortest form.
-/
import RemoteOps.Json.Value
import RemoteOps.Decimal.Shortest

namespace RemoteOps.Json

/-- A digit of base 16. -/
def hexDigit (n : Nat) : Char :=
  if n < 10 then Char.ofNat (48 + n) else Char.ofNat (87 + n)

/-- The characters that stand for one character of a text: quotes,
backslashes and control characters are escaped, all else stands for
itself. -/
def escape (c : Char) : List Char :=
  if c = '"' then ['\\', '"']
  else if c = '\\' then ['\\', '\\']
  else if c.toNat = 8 then ['\\', 'b']
  else if c.toNat = 9 then ['\\', 't']
  else if c.toNat = 10 then ['\\', 'n']
  else if c.toNat = 12 then ['\\', 'f']
  else if c.toNat = 13 then ['\\', 'r']
  else if c.toNat < 32 then
    ['\\', 'u', '0', '0', hexDigit (c.toNat / 16), hexDigit (c.toNat % 16)]
  else [c]

/-- A text between quotes. -/
def renderString (s : String) : List Char :=
  '"' :: s.toList.flatMap escape ++ ['"']

/-- An integer in base 10. -/
def renderInt (z : Int) : List Char :=
  if z < 0 then '-' :: Nat.toDigits 10 z.natAbs
  else Nat.toDigits 10 z.natAbs

mutual

/-- The characters of the compact text. -/
def renderChars : Json → List Char
  | null => ['n', 'u', 'l', 'l']
  | bool true => ['t', 'r', 'u', 'e']
  | bool false => ['f', 'a', 'l', 's', 'e']
  | int z => renderInt z
  | double x => x.render.toList
  | string s => renderString s
  | array [] => ['[', ']']
  | array (a :: l) => '[' :: renderChars a ++ renderElements l ++ [']']
  | object [] => [Char.ofNat 0x7b, Char.ofNat 0x7d]
  | object ((k, a) :: l) =>
    Char.ofNat 0x7b :: renderString k ++ ':' :: renderChars a
      ++ renderMembers l ++ [Char.ofNat 0x7d]

/-- The elements after the first, each with its comma. -/
def renderElements : List Json → List Char
  | [] => []
  | a :: l => ',' :: renderChars a ++ renderElements l

/-- The members after the first, each with its comma. -/
def renderMembers : List (String × Json) → List Char
  | [] => []
  | (k, a) :: l =>
    ',' :: renderString k ++ ':' :: renderChars a ++ renderMembers l

end

/-- The compact text of a value. -/
def render (a : Json) : String := String.ofList (renderChars a)

end RemoteOps.Json
