import DocStore.Text.Split

/-!
# Sets of code points

A set is written as hexadecimal ranges with blanks between them, `41-5a 61-7a`, and read into
the list of its ranges. Names of sets are compared in a loose form, without case, blanks,
underscores and hyphens.
-/

namespace DocStore.Unicode

/-- A set of code points under the loose forms of its names. -/
structure NamedSet where
  names : List String
  text : String

namespace CodePoints

/-- The words of a text between blanks and line ends. -/
def words (cs : List Char) : List (List Char) :=
  ((Text.pieces '\n' cs).flatMap (Text.pieces ' ')).filter fun w => !w.isEmpty

/-- The value of a lower-case hexadecimal digit. -/
def hexDigitValue (c : Char) : Nat :=
  if c ≤ '9' then c.toNat - '0'.toNat else c.toNat - 'a'.toNat + 10

/-- A lower-case hexadecimal number. -/
def hexNumber (cs : List Char) : Nat := cs.foldl (fun n c => n * 16 + hexDigitValue c) 0

/-- The ranges of a written set. -/
def ranges (text : String) : List (Nat × Nat) :=
  (words text.toList).map fun w =>
    match Text.pieces '-' w with
    | [a, b] => (hexNumber a, hexNumber b)
    | ps => (hexNumber ps.flatten, hexNumber ps.flatten)

/-- Whether a code point lies in one of the ranges. -/
def member (rs : List (Nat × Nat)) (n : Nat) : Bool := rs.any fun r => r.1 ≤ n && n ≤ r.2

end CodePoints

/-- The ranges of the set with the given loose name. -/
def findSet? (sets : List NamedSet) (name : String) : Option (List (Nat × Nat)) :=
  (sets.find? fun s => s.names.contains name).map fun s => CodePoints.ranges s.text

end DocStore.Unicode
