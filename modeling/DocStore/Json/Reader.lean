import DocStore.Json
import DocStore.Binary64.Decimal
import DocStore.Text.Numeral

/-!
# Reading JSON text

Text is read in two steps. `Syntax.parse?` checks the grammar and gives a tree in which numbers
keep their spelling and objects keep repeated keys; `Syntax.value?` gives the value the tree
stands for. The two differ on text that is well formed but has no value: numbers out of range,
escapes of lone surrogates, and nesting beyond the limit. A reader that skips an unknown part
of a text looks at the first step alone.
-/

namespace DocStore

namespace Json

/-- The spelling of a number. -/
structure Literal where
  neg : Bool
  whole : List Char
  fraction : List Char
  exponent : Option Int
deriving DecidableEq, Repr, Inhabited

/-- A text that follows the grammar. A string, or a key, is `none` when an escape in it is a
surrogate without its partner. -/
inductive Syntax where
  | null
  | bool (value : Bool)
  | num (literal : Literal)
  | str (value : Option String)
  | arr (items : List Syntax)
  | obj (fields : List (Option String × Syntax))
deriving Inhabited

namespace Literal

/-- Digits read into an unsigned 64-bit accumulator, with those that no longer fit left over. -/
def accumulate : Nat → List Char → Nat × List Char
  | acc, [] => (acc, [])
  | acc, c :: rest =>
    let next := acc * 10 + (c.toNat - '0'.toNat)
    if FitsNat64 next then accumulate next rest else (acc, c :: rest)

/-- Whether the spelling is that of an integer. -/
def isWhole (l : Literal) : Bool := l.fraction.isEmpty && l.exponent.isNone

/-- The double that the spelling stands for: whole digits past the accumulator raise the
exponent, and fraction digits past it are ignored. -/
def toBinary64? (l : Literal) : Option Binary64 :=
  let (whole, pushed) := accumulate 0 l.whole
  let (significand, ignored) := accumulate whole l.fraction
  let exponent : Int := (pushed.length : Int) - (l.fraction.length - ignored.length : Nat)
  Binary64.ofSignificand? l.neg significand (exponent + l.exponent.getD 0)

/-- The number that the spelling stands for: an integer where it is spelled as one and fits 64
bits, a double otherwise; minus zero is a double. -/
def toNumber? (l : Literal) : Option Number :=
  if l.isWhole then
    let (n, left) := accumulate 0 l.whole
    if !left.isEmpty then l.toBinary64?.map .double
    else if !l.neg then some (.int n)
    else if 0 < n ∧ FitsInt64 (-n) then some (.int (-n))
    else (Binary64.ofNat n).negate |> .double |> some
  else l.toBinary64?.map .double

end Literal

namespace Syntax

open Text (digitsValue hexValue?)

/-- Drops the white space of the grammar. -/
def skipBlank (cs : List Char) : List Char :=
  cs.dropWhile fun c => c == ' ' || c == '\t' || c == '\n' || c == '\r'

/-- A keyword at the start of the text. -/
def keyword? (word : List Char) (cs : List Char) : Option (List Char) :=
  if word.isPrefixOf cs then some (cs.drop word.length) else none

/-- Four hexadecimal digits. -/
def hexQuad? : List Char → Option (Nat × List Char)
  | a :: b :: c :: d :: rest => do
    let a ← hexValue? a
    let b ← hexValue? b
    let c ← hexValue? c
    let d ← hexValue? d
    pure (((a * 16 + b) * 16 + c) * 16 + d, rest)
  | _ => none

/-- The character of a one-letter escape. -/
def shortEscape? : Char → Option Char
  | '"' => some '"'
  | '\\' => some '\\'
  | '/' => some '/'
  | 'b' => some '\x08'
  | 'f' => some '\x0c'
  | 'n' => some '\n'
  | 'r' => some '\r'
  | 't' => some '\t'
  | _ => none

/-- The characters of a string after its opening quote as UTF-16 units and scalar values, newest
first, with the text after the closing quote. -/
def stringUnits : Nat → List Nat → List Char → Option (List Nat × List Char)
  | 0, _, _ => none
  | fuel + 1, acc, cs =>
    match cs with
    | '"' :: rest => some (acc, rest)
    | '\\' :: 'u' :: rest => do
      let (n, rest) ← hexQuad? rest
      stringUnits fuel (n :: acc) rest
    | '\\' :: c :: rest => do
      let e ← shortEscape? c
      stringUnits fuel (e.toNat :: acc) rest
    | c :: rest => if c.toNat < 0x20 then none else stringUnits fuel (c.toNat :: acc) rest
    | [] => none

/-- Joins surrogate pairs; `none` for a surrogate without its partner. -/
def joinSurrogates : List Nat → Option (List Char)
  | [] => some []
  | hi :: lo :: rest =>
    if 0xD800 ≤ hi ∧ hi < 0xDC00 ∧ 0xDC00 ≤ lo ∧ lo < 0xE000 then
      (joinSurrogates rest).map
        (Char.ofNat (0x10000 + (hi - 0xD800) * 0x400 + (lo - 0xDC00)) :: ·)
    else if 0xD800 ≤ hi ∧ hi < 0xE000 then none
    else (joinSurrogates (lo :: rest)).map (Char.ofNat hi :: ·)
  | [n] => if 0xD800 ≤ n ∧ n < 0xE000 then none else some [Char.ofNat n]

/-- A string after its opening quote. -/
def string? (cs : List Char) : Option (Option String × List Char) := do
  let (units, rest) ← stringUnits (cs.length + 1) [] cs
  pure ((joinSurrogates units.reverse).map String.ofList, rest)

/-- A run of digits, at least one. -/
def digits? (cs : List Char) : Option (List Char × List Char) :=
  let ds := cs.takeWhile Char.isDigit
  if ds.isEmpty then none else some (ds, cs.drop ds.length)

/-- An optional sign and digits after the exponent mark. -/
def exponent? (cs : List Char) : Option (Int × List Char) :=
  match cs with
  | '-' :: rest => (digits? rest).map fun (ds, rest) => (-(digitsValue ds : Int), rest)
  | '+' :: rest => (digits? rest).map fun (ds, rest) => ((digitsValue ds : Int), rest)
  | rest => (digits? rest).map fun (ds, rest) => ((digitsValue ds : Int), rest)

/-- A number. -/
def number? (cs : List Char) : Option (Literal × List Char) := do
  let (neg, cs) := match cs with
    | '-' :: rest => (true, rest)
    | rest => (false, rest)
  let (whole, cs) ← digits? cs
  if whole.head? == some '0' && whole.length > 1 then none
  let (fraction, cs) ← match cs with
    | '.' :: rest => digits? rest
    | rest => some ([], rest)
  let (exponent, cs) ← match cs with
    | 'e' :: rest => (exponent? rest).map fun (e, rest) => (some e, rest)
    | 'E' :: rest => (exponent? rest).map fun (e, rest) => (some e, rest)
    | rest => some (none, rest)
  pure (⟨neg, whole, fraction, exponent⟩, cs)

mutual

/-- A value and the text after it. -/
def value : Nat → List Char → Option (Syntax × List Char)
  | 0, _ => none
  | fuel + 1, cs =>
    match skipBlank cs with
    | '"' :: rest => (string? rest).map fun (s, rest) => (.str s, rest)
    | '[' :: rest =>
      match skipBlank rest with
      | ']' :: rest => some (.arr [], rest)
      | rest => (items fuel rest).map fun (xs, rest) => (.arr xs, rest)
    | '\x7b' :: rest =>
      match skipBlank rest with
      | '\x7d' :: rest => some (.obj [], rest)
      | rest => (fields fuel rest).map fun (fs, rest) => (.obj fs, rest)
    | 'n' :: rest => (keyword? ['u', 'l', 'l'] rest).map fun rest => (.null, rest)
    | 't' :: rest => (keyword? ['r', 'u', 'e'] rest).map fun rest => (.bool true, rest)
    | 'f' :: rest => (keyword? ['a', 'l', 's', 'e'] rest).map fun rest => (.bool false, rest)
    | rest => (number? rest).map fun (n, rest) => (.num n, rest)

/-- The items of an array up to its closing bracket. -/
def items : Nat → List Char → Option (List Syntax × List Char)
  | 0, _ => none
  | fuel + 1, cs => do
    let (x, rest) ← value fuel cs
    match skipBlank rest with
    | ',' :: rest => (items fuel rest).map fun (xs, rest) => (x :: xs, rest)
    | ']' :: rest => some ([x], rest)
    | _ => none

/-- The fields of an object up to its closing brace. -/
def fields : Nat → List Char → Option (List (Option String × Syntax) × List Char)
  | 0, _ => none
  | fuel + 1, cs => do
    match skipBlank cs with
    | '"' :: rest =>
      let (key, rest) ← string? rest
      match skipBlank rest with
      | ':' :: rest =>
        let (x, rest) ← value fuel rest
        match skipBlank rest with
        | ',' :: rest => (fields fuel rest).map fun (fs, rest) => ((key, x) :: fs, rest)
        | '\x7d' :: rest => some ([(key, x)], rest)
        | _ => none
      | _ => none
    | _ => none

end

/-- The tree of a whole text. -/
def parse? (text : String) : Option Syntax :=
  let cs := text.toList
  match value (2 * cs.length + 2) cs with
  | some (x, rest) => if (skipBlank rest).isEmpty then some x else none
  | none => none

mutual

/-- The value of a tree that is nested at most `depth` levels deep. -/
def value? (depth : Nat) : Syntax → Option Json
  | .null => some .null
  | .bool b => some (.bool b)
  | .num l => l.toNumber?.map .num
  | .str s => s.map .str
  | .arr xs => if depth = 0 then none else (values? (depth - 1) xs).map .arr
  | .obj fs =>
    if depth = 0 then none
    else (fieldValues? (depth - 1) fs).map fun fs => .obj (Fields.ofList fs)

/-- The values of the items of an array. -/
def values? (depth : Nat) : List Syntax → Option (List Json)
  | [] => some []
  | x :: xs => do pure ((← value? depth x) :: (← values? depth xs))

/-- The values of the fields of an object. -/
def fieldValues? (depth : Nat) : List (Option String × Syntax) → Option (List (String × Json))
  | [] => some []
  | (k, x) :: rest => do pure ((← k, ← value? depth x) :: (← fieldValues? depth rest))

end

/-- How often a key stands in an object. -/
def countKey (key : String) (fields : List (Option String × Syntax)) : Nat :=
  (fields.filter fun f => f.1 == some key).length

/-- The fields of a record by position: `none` for one that is missing. A field that is there
twice, and an array with more items than the record has fields, are refused. -/
def recordFields? (keys : List String) : Syntax → Option (List (Option Syntax))
  | .obj fs =>
    if fs.all (·.1.isSome) && keys.all (fun k => countKey k fs ≤ 1) then
      some (keys.map fun k => fs.lookup (some k))
    else none
  | .arr xs =>
    if xs.length ≤ keys.length then
      some (xs.map some ++ List.replicate (keys.length - xs.length) none)
    else none
  | _ => none

/-- How deep a text may nest: one level less than the limit of 128. -/
def depthLimit : Nat := 127

end Syntax

/-- The value of a text. -/
def parse? (text : String) : Option Json := do
  (← Syntax.parse? text).value? Syntax.depthLimit

end Json

end DocStore
