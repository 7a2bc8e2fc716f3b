/-
The shortest decimal text of a double.

Of all decimals that round to the double those with the fewest digits
are taken, and of them the nearest; a half goes to the even one.  The
digits are written with a point when the number is neither very large
nor very small, and with a power of ten otherwise.

* `inInterval`: which decimals round to a double, in exact integers;
* `shortestFrom`: the first grid of decimals with such a point;
* `Double.render`: the text.
-/
import RemoteOps.Decimal.Double

namespace RemoteOps

namespace Shortest

/-- A positive decimal `digits * 10 ^ scale`. -/
structure Decimal where
  digits : Nat
  scale : Int
deriving DecidableEq, Repr

/-- How far the numbers that round to a magnitude reach down, in
quarters of its last place: half a place, but a quarter below a power of
two. -/
def reachDown (a : Nat) : Nat :=
  if Double.significand a = Double.leadingBit && 2 * Double.leadingBit ≤ a
  then 1
  else 2

/-- A quarter of the last place of a magnitude, in steps of a common
grid with `10 ^ scale`. -/
def quarter (a : Nat) (scale : Int) : Nat :=
  Nat.pow 10 (-scale).toNat <<< (Double.exponent a - 2).toNat

/-- The step `10 ^ scale` on the same common grid. -/
def tenth (a : Nat) (scale : Int) : Nat :=
  Nat.pow 10 scale.toNat <<< (2 - Double.exponent a).toNat

/-- Whether `d * 10 ^ scale` rounds to the magnitude `a`; the ends
belong to the even significand. -/
def inInterval (a : Nat) (scale : Int) (d : Nat) : Bool :=
  let v := 4 * Double.significand a
  let lo := (v - reachDown a) * quarter a scale
  let hi := (v + 2) * quarter a scale
  let x := d * tenth a scale
  if a % 2 = 0 then lo ≤ x && x ≤ hi else lo < x && x < hi

/-- The multiple of `10 ^ scale` nearest to the magnitude among those
that round to it. -/
def nearest? (a : Nat) (scale : Int) : Option Decimal :=
  let v := 4 * Double.significand a * quarter a scale
  let step := tenth a scale
  let d := v / step
  let up := if 2 * (v % step) = step then d % 2 = 1
    else step < 2 * (v % step)
  let first := if up then d + 1 else d
  let second := if up then d else d + 1
  if inInterval a scale first then some ⟨first, scale⟩
  else if inInterval a scale second then some ⟨second, scale⟩
  else none

/-- The largest `k < 309` with `10 ^ k` at most the magnitude, looked
for downwards from `n - 324`. -/
def decimalOrder (a : Nat) : Nat → Int
  | 0 => -324
  | n + 1 =>
    let k : Int := (n : Int) + 1 - 324
    if tenth a k ≤ 4 * Double.significand a * quarter a k then k
    else decimalOrder a n

/-- The first grid with a point that rounds to the magnitude, from the
given number of digits on. -/
def shortestFrom (a : Nat) (order : Int) : Nat → Nat → Decimal
  | 0, n => ⟨4 * Double.significand a * quarter a (order - n)
      / tenth a (order - n), order - n⟩
  | fuel + 1, n =>
    match nearest? a (order - n) with
    | some d => d
    | none => shortestFrom a order fuel (n + 1)

/-- The shortest decimal of a magnitude other than zero; 17 digits are
always enough. -/
def shortest (a : Nat) : Decimal :=
  shortestFrom a (decimalOrder a 632) 17 0

/-- Removes zeros at the end of the digits. -/
def dropZeros : List Char → List Char
  | [] => []
  | c :: cs =>
    match dropZeros cs with
    | [] => if c = '0' then [] else [c]
    | d :: ds => c :: d :: ds

/-- The bounds of the decimal exponent between which digits are written
with a point and no power of ten. -/
def plainBounds : Int × Int := (-5, 15)

/-- Writes digits whose first one counts `10 ^ x`. -/
def layout (ds : List Char) (x : Int) : List Char :=
  if plainBounds.1 ≤ x && x ≤ plainBounds.2 then
    if x < 0 then
      '0' :: '.' :: List.replicate (-x - 1).toNat '0' ++ ds
    else if ds.length ≤ x.toNat + 1 then
      ds ++ List.replicate (x.toNat + 1 - ds.length) '0' ++ ['.', '0']
    else ds.take (x.toNat + 1) ++ '.' :: ds.drop (x.toNat + 1)
  else
    ds.take 1 ++ (if ds.length ≤ 1 then [] else '.' :: ds.drop 1)
      ++ ['e', if x < 0 then '-' else '+'] ++ Nat.toDigits 10 x.natAbs

end Shortest

namespace Double

/-- The shortest text that reads back as the double. -/
def render (x : Double) : String :=
  let body :=
    if x.isZero then ['0', '.', '0']
    else
      let d := Shortest.shortest x.magnitude
      let cs := Nat.toDigits 10 d.digits
      Shortest.layout (Shortest.dropZeros cs) (d.scale + cs.length - 1)
  String.ofList (if x.negative then '-' :: body else body)

end Double

end RemoteOps
