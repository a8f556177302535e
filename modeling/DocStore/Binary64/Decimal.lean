import DocStore.Binary64

/-!
# Decimal forms of binary64 numbers

`Binary64.shortest` gives the fewest decimal digits that read back as the same number, and of
those the nearest. A `Decimal.Layout` says how such digits are written; there are two, one
for numbers in documents and one for the bounds named in messages. In the other direction
`Binary64.ofDecimal?` rounds a decimal once, and `Binary64.ofSignificand?` scales a rounded
significand by a rounded power of ten, which is how document text is read.
-/

namespace DocStore

/-- `digits * 10 ^ exponent`. -/
structure Decimal where
  digits : Nat
  exponent : Int
deriving DecidableEq, Repr

namespace Decimal

/-- The decimal digits of a natural number, most significant first. -/
def digitsOf (n : Nat) : List Char := Nat.toDigits 10 n

/-- Moves factors of ten from the digits into the exponent, at most `fuel` of them. -/
def normalize : Nat → Decimal → Decimal
  | 0, d => d
  | fuel + 1, d =>
    if d.digits % 10 = 0 then normalize fuel ⟨d.digits / 10, d.exponent + 1⟩ else d

/-- Which of two equally near decimals is taken. -/
inductive Tie where
  | even
  | up

/-- How a decimal is written. -/
structure Layout where
  /-- The scientific exponents that are written positionally; outside, an exponent is shown. -/
  positional : Int → Bool
  /-- Whether a whole number still shows a point and a zero. -/
  keepsPoint : Bool
  /-- Which of two shortest decimals at the same distance is written. -/
  tie : Tie

/-- Numbers in documents: positional from `1e-5` up to below `1e16`, always with a point. -/
def Layout.document : Layout := ⟨fun e => -5 ≤ e ∧ e ≤ 15, true, .even⟩

/-- Bounds in messages: always positional, whole numbers without a point. -/
def Layout.plain : Layout := ⟨fun _ => true, false, .up⟩

/-- The digits with the point placed so that the first digit has weight `10 ^ sci`. -/
def positionalText (keepsPoint : Bool) (ds : List Char) (sci : Int) : List Char :=
  if sci < 0 then
    '0' :: '.' :: List.replicate (-sci - 1).toNat '0' ++ ds
  else
    let whole := sci.toNat + 1
    if ds.length ≤ whole then
      ds ++ List.replicate (whole - ds.length) '0' ++ if keepsPoint then ['.', '0'] else []
    else ds.take whole ++ '.' :: ds.drop whole

/-- One digit before the point and a signed exponent. -/
def scientificText (ds : List Char) (sci : Int) : List Char :=
  let mantissa := match ds with
    | [] => []
    | d :: [] => [d]
    | d :: rest => d :: '.' :: rest
  let sign := if sci < 0 then '-' else '+'
  mantissa ++ 'e' :: sign :: digitsOf sci.natAbs

/-- A nonzero normalized decimal in the given layout. -/
def text (layout : Layout) (d : Decimal) : List Char :=
  let ds := digitsOf d.digits
  let sci := d.exponent + (ds.length : Int) - 1
  if layout.positional sci then positionalText layout.keepsPoint ds sci
  else scientificText ds sci

end Decimal

namespace Binary64

/-- The exponent of the first decimal digit of a positive number. -/
def decimalExponent (x : Binary64) : Int :=
  let whole := x.magnitude / unitsPerOne
  if 0 < whole then (Decimal.digitsOf whole).length - 1
  else -(Decimal.digitsOf ((unitsPerOne - 1) / x.magnitude)).length

/-- The decimal of `n` digits that is nearest to a positive number, when it reads back as it.
Values are compared as multiples of `2 ^ -1075`, where the bounds of the interval of decimals
that read back are whole. -/
def readBack (tie : Decimal.Tie) (x : Binary64) (n : Nat) : Option Decimal :=
  let value := 2 * x.magnitude
  let above := Nat.pow 2 x.exponent
  let below := if x.significand = 4503599627370496 ∧ 0 < x.exponent then
    Nat.pow 2 (x.exponent - 1) else above
  let closed := x.significand % 2 = 0
  let exponent : Int := x.decimalExponent - (n : Int) + 1
  -- `scale * value` and `step * digits` are on one scale
  let scale := if exponent < 0 then Nat.pow 10 (-exponent).toNat else 1
  let step := (if exponent < 0 then 1 else Nat.pow 10 exponent.toNat) * (2 * unitsPerOne)
  let low := (value - below) * scale
  let high := (value + above) * scale
  let fits (d : Nat) : Bool :=
    if closed then low ≤ d * step ∧ d * step ≤ high else low < d * step ∧ d * step < high
  let d := value * scale / step
  let lowerFits := fits d
  let upperFits := fits (d + 1)
  let lowerNearer : Bool :=
    match compare (2 * (value * scale % step)) step with
    | .lt => true
    | .gt => false
    | .eq => match tie with
      | .even => d % 2 = 0
      | .up => false
  if lowerFits && (lowerNearer || !upperFits) then some ⟨d, exponent⟩
  else if upperFits then some ⟨d + 1, exponent⟩
  else none

/-- The shortest decimal that reads back as a positive number. -/
def shortest (tie : Decimal.Tie) (x : Binary64) : Decimal :=
  match (List.range 17).findSome? fun k => x.readBack tie (k + 1) with
  | some d => d.normalize 20
  | none => ⟨0, 0⟩

/-- The text of a number in the given layout. -/
def text (layout : Decimal.Layout) (x : Binary64) : String :=
  let body :=
    if x.isZero then '0' :: if layout.keepsPoint then ['.', '0'] else []
    else (x.shortest layout.tie).text layout
  String.ofList (if x.neg then '-' :: body else body)

/-- The number nearest to `± digits * 10 ^ exponent`. -/
def ofDecimal? (neg : Bool) (d : Decimal) : Option Binary64 :=
  let size := (Decimal.digitsOf d.digits).length + d.exponent
  if d.digits = 0 then some (zero neg)
  else if size > 400 then none
  else if size < -400 then some (zero neg)
  else if d.exponent < 0 then
    round? neg (d.digits * unitsPerOne) (Nat.pow 10 (-d.exponent).toNat)
  else round? neg (d.digits * Nat.pow 10 d.exponent.toNat * unitsPerOne) 1

/-- The power of ten `10 ^ n`, rounded. -/
def powerOfTen (n : Nat) : Option Binary64 := ofDecimal? false ⟨1, n⟩

/-- Scales a rounded significand by rounded powers of ten: one multiplication for exponents
from 0 to 308, divisions by `10 ^ 308` and one last division below zero. `none` when the value
is too large. -/
def scaleByTen (x : Binary64) (exponent : Int) : Option Binary64 :=
  if x.isZero then some x
  else if exponent > 308 then none
  else if 0 ≤ exponent then do x.mul (← powerOfTen exponent.toNat)
  else
    let n := (-exponent).toNat
    if n ≤ 308 then do x.div (← powerOfTen n)
    else if n ≤ 2 * 308 then do (← x.div (← powerOfTen 308)).div (← powerOfTen (n - 308))
    else if n ≤ 3 * 308 then do
      let y ← (← x.div (← powerOfTen 308)).div (← powerOfTen 308)
      y.div (← powerOfTen (n - 616))
    else some (zero x.neg)

/-- The number that document text with this significand and exponent stands for. -/
def ofSignificand? (neg : Bool) (significand : Nat) (exponent : Int) : Option Binary64 := do
  let x ← (ofNat significand).scaleByTen exponent
  pure (if neg then x.negate else x)

end Binary64

end DocStore
