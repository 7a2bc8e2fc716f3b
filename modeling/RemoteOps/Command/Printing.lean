/-
Texts that commands print: escapes, formats and quoting.

* `Printing.escaped_plain`: without backslashes nothing is escaped;
* `Printing.pad_length`: a padded text is as wide as it should be.
-/
import RemoteOps.Command.Number

namespace RemoteOps.Printing

/-! ### Escapes -/

/-- Whether a character is an octal digit. -/
def isOctal (c : Char) : Bool := Number.isDigitOf 8 c

/-- The byte of a number. -/
def byte (n : Nat) : Char := Char.ofNat (n % 256)

/-- The byte that a letter stands for after a backslash. -/
def letter? (c : Char) : Option Char :=
  match c with
  | '\\' => some '\\'
  | 'a' => some (byte 7)
  | 'b' => some (byte 8)
  | 'f' => some (byte 12)
  | 'n' => some '\n'
  | 'r' => some '\r'
  | 't' => some '\t'
  | 'v' => some (byte 11)
  | _ => none

/-- What a backslash and the text behind it stand for, and the rest. -/
def escape (cs : List Char) : Char × List Char :=
  match cs with
  | c :: rest =>
    match letter? c with
    | some b => (b, rest)
    | none =>
      let digits := (cs.take 3).takeWhile isOctal
      if digits.isEmpty then ('\\', cs)
      else (byte (Number.valueOf 8 digits), cs.drop digits.length)
  | [] => ('\\', [])

/-- A text with its escapes replaced, and whether one of them stops
everything. -/
def escaped : Nat → List Char → List Char × Bool
  | 0, cs => (cs, false)
  | _, [] => ([], false)
  | _ + 1, '\\' :: 'c' :: _ => ([], true)
  | fuel + 1, '\\' :: cs =>
    let cs :=
      match cs with
      | '0' :: d :: rest => if isOctal d then d :: rest else cs
      | cs => cs
    let (b, rest) := escape cs
    let (text, stops) := escaped fuel rest
    (b :: text, stops)
  | fuel + 1, c :: cs =>
    let (text, stops) := escaped fuel cs
    (c :: text, stops)

/-- What `echo` prints in the shell. -/
def echo (args : List String) : String :=
  let (newline, args) :=
    match args with
    | "-n" :: rest => (false, rest)
    | args => (true, args)
  let text := String.intercalate " " args
  let (cs, stops) := escaped (text.length + 1) text.toList
  String.ofList (if newline && !stops then cs ++ ['\n'] else cs)

/-! ### Formats -/

/-- How a value is printed in a format. -/
structure Layout where
  flags : List Char
  width : Nat
  precision : Option Nat

/-- Fills a text up to a width. -/
def pad (left : Bool) (fill : Char) (width : Nat) (cs : List Char) :
    List Char :=
  let filling := List.replicate (width - cs.length) fill
  if left then cs ++ filling else filling ++ cs

/-- A text in a layout. -/
def layText (l : Layout) (cs : List Char) : List Char :=
  let cs :=
    match l.precision with
    | some n => cs.take n
    | none => cs
  pad (l.flags.contains '-') ' ' l.width cs

/-- Digits behind a sign in a layout. -/
def layDigits (l : Layout) (sign digits : List Char) : List Char :=
  let digits :=
    match l.precision with
    | some n => pad false '0' n (if digits = ['0'] && n = 0 then [] else digits)
    | none => digits
  let zeros := l.flags.contains '0' && !l.flags.contains '-'
    && l.precision.isNone
  if zeros then sign ++ pad false '0' (l.width - sign.length) digits
  else pad (l.flags.contains '-') ' ' l.width (sign ++ digits)

/-- A number in a layout, with the letter of the format. -/
def layNumber (l : Layout) (kind : Char) (z : Int) : List Char :=
  if kind = 'd' || kind = 'i' then
    let sign :=
      if z < 0 then ['-']
      else if l.flags.contains '+' then ['+']
      else if l.flags.contains ' ' then [' ']
      else []
    layDigits l sign (Number.render 10 false z.natAbs).toList
  else
    let n := (z % 0x10000000000000000).toNat
    let base := if kind = 'o' then 8 else if kind = 'u' then 10 else 16
    let digits := (Number.render base (kind = 'X') n).toList
    let marked := l.flags.contains '#' && n ≠ 0
    let sign :=
      if !marked then []
      else if kind = 'o' then ['0']
      else if base = 16 then ['0', kind]
      else []
    layDigits l sign digits

/-- What has been printed, the arguments that are left, and whether an
argument was no number. -/
structure Printed where
  text : List Char := []
  args : List String
  wrong : Bool := false

/-- The number that a text starts with, and whether it is one as a
whole. -/
def leadingNumber (s : String) : Int × Bool :=
  match s.toList with
  | '\'' :: rest | '"' :: rest =>
    (Int.ofNat ((rest.head?.map Char.toNat).getD 0), true)
  | cs =>
    let cs := cs.dropWhile Number.isBlank
    let (negative, cs) := Number.splitSign cs
    match cs with
    | c :: _ =>
      if c.isDigit then
        let (n, rest) := Number.literal cs
        let z := Number.signed negative n
        (max (-0x8000000000000000) (min z 0xffffffffffffffff), rest.isEmpty)
      else (0, false)
    | [] => (0, s = "")

/-- Takes a number from the arguments. -/
def Printed.number (p : Printed) : Int × Printed :=
  match p.args with
  | x :: rest =>
    let (z, whole) := leadingNumber x
    (z, { p with args := rest, wrong := p.wrong || !whole })
  | [] => (0, p)

/-- Takes a text from the arguments. -/
def Printed.string (p : Printed) : String × Printed :=
  match p.args with
  | x :: rest => (x, { p with args := rest })
  | [] => ("", p)

/-- Reads a width or precision, which may be taken from the
arguments. -/
def readSize (p : Printed) (cs : List Char) : Int × Printed × List Char :=
  match cs with
  | '*' :: rest =>
    let (z, p) := p.number
    (z, p, rest)
  | cs =>
    (Int.ofNat (Number.valueOf 10 (cs.takeWhile Char.isDigit)), p,
      cs.dropWhile Char.isDigit)

/-- Reads a layout. -/
def readLayout (p : Printed) (cs : List Char) :
    Layout × Printed × List Char :=
  let isFlag (c : Char) := ['#', '-', '+', ' ', '0'].contains c
  let flags := cs.takeWhile isFlag
  let (width, p, cs) := readSize p (cs.dropWhile isFlag)
  let flags := if width < 0 then '-' :: flags else flags
  match cs with
  | '.' :: rest =>
    let (precision, p, rest) := readSize p rest
    let precision := if precision < 0 then none else some precision.toNat
    (⟨flags, width.natAbs, precision⟩, p, rest)
  | cs => (⟨flags, width.natAbs, none⟩, p, cs)

/-- Prints by a format once, unless it is malformed; also whether an
escape stopped it. -/
def printOnce : Nat → List Char → Printed → Option (Printed × Bool)
  | 0, _, p => some (p, false)
  | _, [], p => some (p, false)
  | fuel + 1, '\\' :: cs, p =>
    let (b, rest) := escape cs
    printOnce fuel rest { p with text := p.text ++ [b] }
  | fuel + 1, '%' :: '%' :: cs, p =>
    printOnce fuel cs { p with text := p.text ++ ['%'] }
  | fuel + 1, '%' :: cs, p =>
    let (l, p, cs) := readLayout p cs
    match cs with
    | [] => none
    | kind :: cs =>
      match kind with
      | 's' =>
        let (x, p) := p.string
        printOnce fuel cs { p with text := p.text ++ layText l x.toList }
      | 'b' =>
        let (x, p) := p.string
        let (text, stops) := escaped (x.length + 1) x.toList
        let p := { p with text := p.text ++ layText l text }
        if stops then some (p, true) else printOnce fuel cs p
      | 'c' =>
        let (x, p) := p.string
        let text := [x.toList.headD (byte 0)]
        printOnce fuel cs
          { p with text := p.text ++ layText { l with precision := none } text }
      | kind =>
        if ['d', 'i', 'o', 'u', 'x', 'X'].contains kind then
          let (z, p) := p.number
          let z :=
            if kind = 'd' || kind = 'i' then min z 0x7fffffffffffffff else z
          printOnce fuel cs { p with text := p.text ++ layNumber l kind z }
        else none
  | fuel + 1, c :: cs, p =>
    printOnce fuel cs { p with text := p.text ++ [c] }

/-- Prints by a format as often as it takes for the arguments. -/
def printAll (format : List Char) : Nat → Printed →
    Option Printed
  | 0, p => some p
  | fuel + 1, p => do
    let (q, stops) ← printOnce (format.length + 1) format p
    if stops || q.args.isEmpty || q.args.length = p.args.length then
      return q
    else printAll format fuel q

/-- What `printf` prints, and whether an argument was no number; none if
the format is malformed. -/
def printf? (format : String) (args : List String) :
    Option (String × Bool) := do
  let p ← printAll format.toList (args.length + 1) { args }
  return (String.ofList p.text, p.wrong)

/-! ### Quoting -/

/-- Quotes a text so that a script reads it as one word. -/
def quotedRuns : Nat → List Char → List Char
  | 0, _ => []
  | _, [] => []
  | fuel + 1, cs =>
    let plain := cs.takeWhile (· ≠ '\'')
    let cs := cs.drop plain.length
    let quotes := cs.takeWhile (· = '\'')
    let between := if quotes.isEmpty then [] else '"' :: quotes ++ ['"']
    '\'' :: plain ++ '\'' :: between ++
      quotedRuns fuel (cs.drop quotes.length)

/-- Quotes a text so that a script reads it as one word. -/
def quote (s : String) : String :=
  if s = "" then "''"
  else String.ofList (quotedRuns (s.length + 1) s.toList)

theorem pad_length (left : Bool) (fill : Char) (width : Nat)
    (cs : List Char) :
    (pad left fill width cs).length = max width cs.length := by
  unfold pad
  split <;> simp <;> omega

theorem escaped_plain {cs : List Char} (h : '\\' ∉ cs) (fuel : Nat) :
    escaped fuel cs = (cs, false) := by
  induction cs generalizing fuel with
  | nil => cases fuel <;> rfl
  | cons c cs ih =>
    simp only [List.mem_cons, not_or] at h
    cases fuel with
    | zero => rfl
    | succ fuel =>
      have hc : ¬ c = '\\' := fun e => h.1 e.symm
      unfold escaped
      split
      · next heq => simp at heq
      · next heq => simp_all
      · next heq => simp_all
      · next heq => simp_all
      · next heq =>
        cases heq
        simp [ih h.2]

end RemoteOps.Printing
