/-!
# Finite binary64 numbers

A finite double is a sign and a count of units of `2 ^ -1074`, the count written as a
significand below `2 ^ 53` shifted left by an exponent. The form is canonical, so equality of
numbers (the two zeros apart) is equality of the fields, and order is the order of the
integers `Binary64.units`. Arithmetic is exact integer arithmetic followed by one rounding to
the nearest grid point, ties to the even significand; a result beyond the largest finite
number is `none`.
-/

namespace DocStore

/-- A finite double: `± significand * 2 ^ exponent` units of `2 ^ -1074`. -/
structure Binary64 where
  neg : Bool
  significand : Nat
  exponent : Nat
  significand_lt : significand < 9007199254740992
  exponent_le : exponent ≤ 2045
  normal : exponent = 0 ∨ 4503599627370496 ≤ significand
deriving DecidableEq

/-- The quotient `num / den` rounded to the nearest natural number, a half to the even one. -/
def roundQuotient (num den : Nat) : Nat :=
  let q := num / den
  let r := num % den
  if 2 * r < den then q
  else if den < 2 * r then q + 1
  else if q % 2 = 0 then q else q + 1

namespace Binary64

/-- How many units of `2 ^ -1074` make one. -/
def unitsPerOne : Nat := Nat.pow 2 1074

/-- The absolute value in units of `2 ^ -1074`. -/
def magnitude (x : Binary64) : Nat := x.significand * Nat.pow 2 x.exponent

/-- The signed value in units of `2 ^ -1074`; both zeros have value zero. -/
def units (x : Binary64) : Int := if x.neg then -(x.magnitude : Int) else x.magnitude

/-- Zero with the given sign. -/
def zero (neg : Bool := false) : Binary64 :=
  ⟨neg, 0, 0, by decide, by decide, .inl rfl⟩

/-- The largest finite number with the given sign. -/
def largest (neg : Bool) : Binary64 :=
  ⟨neg, 9007199254740991, 2045, by decide, by decide, .inr (by decide)⟩

instance : Inhabited Binary64 := ⟨zero⟩

/-- The number with these fields, when they are in canonical form. -/
def ofFields? (neg : Bool) (significand exponent : Nat) : Option Binary64 :=
  if h : significand < 9007199254740992 ∧ exponent ≤ 2045 ∧
      (exponent = 0 ∨ 4503599627370496 ≤ significand) then
    some ⟨neg, significand, exponent, h.1, h.2.1, h.2.2⟩
  else none

/-- The grid exponent at which a magnitude of `q` whole units has 53 bits or fewer. -/
def gridExponent (q : Nat) : Nat := if q < 9007199254740992 then 0 else Nat.log2 q - 52

/-- The number nearest to `num / den` units, `none` past the largest finite number. -/
def round? (neg : Bool) (num den : Nat) : Option Binary64 :=
  let e := gridExponent (num / den)
  let s := roundQuotient num (den * Nat.pow 2 e)
  if s < 9007199254740992 then ofFields? neg s e else ofFields? neg 4503599627370496 (e + 1)

/-- The finite number nearest to an integer; integers of 64 bits never meet the bound. -/
def ofInt (i : Int) : Binary64 :=
  (round? (i < 0) (i.natAbs * unitsPerOne) 1).getD (largest (i < 0))

/-- The number nearest to a natural number. -/
def ofNat (n : Nat) : Binary64 := ofInt n

/-- The number with the opposite sign, zero included. -/
def negate (x : Binary64) : Binary64 := { x with neg := !x.neg }

def isZero (x : Binary64) : Bool := x.significand == 0

/-- The exact sum, rounded; a zero sum is negative only for two negative zeros. -/
def add (x y : Binary64) : Option Binary64 :=
  let s := x.units + y.units
  if s = 0 then some (zero (x.neg && y.neg)) else round? (s < 0) s.natAbs 1

def sub (x y : Binary64) : Option Binary64 := x.add y.negate

/-- The exact product, rounded. -/
def mul (x y : Binary64) : Option Binary64 :=
  round? (x.neg != y.neg) (x.magnitude * y.magnitude) unitsPerOne

/-- The exact quotient, rounded; `none` for a zero divisor. -/
def div (x y : Binary64) : Option Binary64 :=
  if y.isZero then none
  else round? (x.neg != y.neg) (x.magnitude * unitsPerOne) y.magnitude

/-- The integer square root by bisection between `lo` and `hi`, `fuel` halvings. -/
def bisectSqrt (n : Nat) : Nat → Nat → Nat → Nat
  | 0, lo, _ => lo
  | fuel + 1, lo, hi =>
    if lo + 1 < hi then
      let mid := (lo + hi) / 2
      if mid * mid ≤ n then bisectSqrt n fuel mid hi else bisectSqrt n fuel lo mid
    else lo

/-- The greatest number whose square is at most `n`. -/
def natSqrt (n : Nat) : Nat :=
  let bits := Nat.log2 n / 2 + 1
  bisectSqrt n (bits + 1) 0 (Nat.pow 2 bits)

/-- The square root, rounded; `none` below zero. Sixty-four guard bits and a sticky bit decide
every rounding, since no square root lies on a midpoint of the grid. -/
def sqrt (x : Binary64) : Option Binary64 :=
  if x.isZero then some x
  else if x.neg then none
  else
    let n := x.magnitude * unitsPerOne * Nat.pow 2 128
    let r := natSqrt n
    round? false (2 * r + if r * r = n then 0 else 1) (Nat.pow 2 65)

/-- Whether the value is a whole number. -/
def isIntegral (x : Binary64) : Bool := x.magnitude % unitsPerOne == 0

/-- The value without its fraction. -/
def truncate (x : Binary64) : Int := x.units.tdiv unitsPerOne

/-- The integer of 64 bits that a cast gives: the value without its fraction, or the end of the range
that it lies beyond. -/
def toInt64 (x : Binary64) : Int := max (-9223372036854775808) (min x.truncate 9223372036854775807)

/-- Order by value; the two zeros are equal. -/
def compareValue (x y : Binary64) : Ordering := compare x.units y.units

/-- Equality by value; the two zeros are equal. -/
def sameValue (x y : Binary64) : Bool := x.units == y.units

end Binary64

end DocStore
