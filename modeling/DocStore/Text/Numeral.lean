import DocStore.Words

/-!
# Numerals in text

The values of digits, and integers written in decimal with an optional sign and nothing else around
them.
-/

namespace DocStore.Text

/-- The value of a run of decimal digits. -/
def digitsValue (ds : List Char) : Nat :=
  ds.foldl (fun n c => n * 10 + (c.toNat - '0'.toNat)) 0

/-- The value of a hexadecimal digit. -/
def hexValue? (c : Char) : Option Nat :=
  if '0' ≤ c ∧ c ≤ '9' then some (c.toNat - '0'.toNat)
  else if 'a' ≤ c ∧ c ≤ 'f' then some (c.toNat - 'a'.toNat + 10)
  else if 'A' ≤ c ∧ c ≤ 'F' then some (c.toNat - 'A'.toNat + 10)
  else none

/-- The value of a text of digits only, at least one. -/
def digits? (cs : List Char) : Option Nat :=
  if !cs.isEmpty && cs.all Char.isDigit then some (digitsValue cs) else none

/-- A signed decimal numeral. -/
def integer? : List Char → Option Int
  | '-' :: rest => (digits? rest).map fun n => -(n : Int)
  | '+' :: rest => (digits? rest).map fun n => (n : Int)
  | cs => (digits? cs).map fun n => (n : Int)

/-- A signed decimal numeral of a value that fits 64 bits. -/
def int64? (cs : List Char) : Option Int := do
  let i ← integer? cs
  if FitsInt64 i then some i else none

/-- A decimal numeral of a natural number that fits 64 bits; a plus may stand before it. -/
def nat64? (cs : List Char) : Option Nat := do
  let n ← match cs with
    | '+' :: rest => digits? rest
    | cs => digits? cs
  if FitsNat64 n then some n else none

end DocStore.Text
