/-
Finite numbers of the binary format with 53 digits and 11 exponent bits,
and correctly rounded arithmetic on them.

A double is kept as its sign and its magnitude, the number whose 63 bits
are the exponent field and the fraction field.  A magnitude `a` stands
for `significand a * 2 ^ exponent a`, and larger magnitudes stand for
larger numbers.  Results that are too large for the format are `none`.

* `roundHalfEven_bounds`: a rounded quotient is off by at most one half;
* `roundHalfEven_of_dvd`: an exact quotient is kept.
-/

namespace RemoteOps

/-! ### Rounding -/

/-- The quotient rounded to the nearest number; a half goes to the even
neighbour. -/
def roundHalfEven (a b : Nat) : Nat :=
  let t := a / b
  let r := a % b
  if 2 * r < b then t
  else if b < 2 * r then t + 1
  else if t % 2 = 0 then t
  else t + 1

theorem roundHalfEven_bounds {a b : Nat} (hb : 0 < b) :
    2 * a ≤ 2 * b * roundHalfEven a b + b ∧
      2 * b * roundHalfEven a b ≤ 2 * a + b := by
  have h1 := Nat.div_add_mod a b
  have h2 := Nat.mod_lt a hb
  simp only [roundHalfEven]
  generalize hq : a / b = t at h1 ⊢
  have e : 2 * b * t = 2 * (b * t) := Nat.mul_assoc 2 b t
  have e' : 2 * b * (t + 1) = 2 * (b * t) + 2 * b := by
    rw [Nat.mul_add, e, Nat.mul_one]
  split
  · omega
  · split
    · omega
    · split <;> omega

theorem roundHalfEven_of_dvd {a b : Nat} (hb : 0 < b) (h : b ∣ a) :
    roundHalfEven a b = a / b := by
  simp only [roundHalfEven, Nat.mod_eq_zero_of_dvd h]
  simp [hb]

/-! ### Doubles -/

/-- The leading bit of a significand, `2 ^ 52`. -/
def Double.leadingBit : Nat := 0x10000000000000

/-- A finite double, by sign and magnitude. -/
structure Double where
  negative : Bool
  magnitude : Nat
  finite : magnitude < 2047 * Double.leadingBit
deriving DecidableEq, Repr

namespace Double

/-- The significand of a magnitude. -/
def significand (a : Nat) : Nat :=
  if a < leadingBit then a else a % leadingBit + leadingBit

/-- The exponent of a magnitude. -/
def exponent (a : Nat) : Int :=
  if a < leadingBit then -1074 else (a / leadingBit : Nat) - 1075

/-- The zero with the given sign. -/
def zero (negative : Bool) : Double := ⟨negative, 0, by decide⟩

/-- Whether a double is one of the two zeros. -/
def isZero (x : Double) : Bool := x.magnitude == 0

/-- The double with the other sign. -/
def neg (x : Double) : Double := { x with negative := !x.negative }

/-- The largest `e` with `2 ^ e ≤ num / den`. -/
def binaryOrder (num den : Nat) : Int :=
  let s : Int := (Nat.log2 num : Int) - Nat.log2 den
  if den <<< s.toNat ≤ num <<< (-s).toNat then s else s - 1

/-- The double nearest to a quotient; a half goes to the even
neighbour. -/
def ofRatio? (negative : Bool) (num den : Nat) : Option Double :=
  if num = 0 then some (zero negative)
  else
    let q := max (binaryOrder num den - 52) (-1074)
    let m := roundHalfEven (num <<< (-q).toNat) (den <<< q.toNat)
    let a := (q + 1074).toNat * leadingBit + m
    if h : a < 2047 * leadingBit then some ⟨negative, a, h⟩ else none

/-- The double nearest to a natural number. -/
def ofNat? (n : Nat) : Option Double := ofRatio? false n 1

/-- The rounded product. -/
def mul? (x y : Double) : Option Double :=
  let q := exponent x.magnitude + exponent y.magnitude
  ofRatio? (x.negative != y.negative)
    ((significand x.magnitude * significand y.magnitude) <<< q.toNat)
    (1 <<< (-q).toNat)

/-- The rounded quotient; the divisor is not to be zero. -/
def div? (x y : Double) : Option Double :=
  let q := exponent x.magnitude - exponent y.magnitude
  ofRatio? (x.negative != y.negative)
    (significand x.magnitude <<< q.toNat)
    (significand y.magnitude <<< (-q).toNat)

/-- Equality of the numbers that two doubles stand for: the two zeros
are the same number. -/
def sameNumber (x y : Double) : Bool :=
  x == y || (x.isZero && y.isZero)

end Double

end RemoteOps
