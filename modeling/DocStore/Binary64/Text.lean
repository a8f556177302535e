import DocStore.Binary64.Decimal
import DocStore.Text.Numeral

/-!
# Binary64 numbers in text

Decimal numbers as people write them in strings: a sign, digits with an optional point, and an
optional exponent, rounded once. Words for values that are not finite are no numbers here.
-/

namespace DocStore.Binary64

/-- An optional exponent at the end of a text. -/
def exponentOf? : List Char → Option Int
  | [] => some 0
  | c :: rest => if c == 'e' || c == 'E' then Text.integer? rest else none

/-- An unsigned decimal number. -/
def magnitudeOf? (cs : List Char) : Option Decimal := do
  let whole := cs.takeWhile Char.isDigit
  let rest := cs.drop whole.length
  let fraction := match rest with
    | '.' :: rest => rest.takeWhile Char.isDigit
    | _ => []
  let rest := match rest with
    | '.' :: rest => rest.drop fraction.length
    | rest => rest
  if whole.isEmpty && fraction.isEmpty then none
  let exponent ← exponentOf? rest
  pure ⟨Text.digitsValue (whole ++ fraction), exponent - fraction.length⟩

/-- The finite number that a text stands for. -/
def ofText? (cs : List Char) : Option Binary64 :=
  match cs with
  | '-' :: rest => do ofDecimal? true (← magnitudeOf? rest)
  | '+' :: rest => do ofDecimal? false (← magnitudeOf? rest)
  | cs => do ofDecimal? false (← magnitudeOf? cs)

end DocStore.Binary64
