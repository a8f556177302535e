import DocStore.Json

/-!
# Order and equality of values

Values are ordered by type first (null, booleans, numbers, strings, arrays, objects), then by
value: integers of 64 bits exactly and all other numbers as doubles, strings by code points,
arrays item by item and objects field by field in their order. Equality widens numbers in the
same way and ignores the order of keys.
-/

namespace DocStore

namespace Number

/-- The order of numbers; signed 64-bit integers are compared exactly, all others as doubles. -/
def compareTo (a b : Number) : Ordering :=
  match a.asInt64?, b.asInt64? with
  | some i, some j => compare i j
  | _, _ => a.toBinary64.compareValue b.toBinary64

end Number

namespace Json

/-- The place of a type in the order of types. -/
def rank : Json → Nat
  | .null => 0
  | .bool _ => 1
  | .num _ => 2
  | .str _ => 3
  | .arr _ => 4
  | .obj _ => 5

/-- Whether two values have the same type, so that range operators compare them. -/
def sameBracket (a b : Json) : Bool := a.rank == b.rank

mutual

/-- The order of values. -/
def compareTo : Json → Json → Ordering
  | .bool a, .bool b => compare a b
  | .num a, .num b => a.compareTo b
  | .str a, .str b => compare a b
  | .arr xs, .arr ys => compareItems xs ys
  | .obj fs, .obj gs => compareFields fs gs
  | a, b => compare a.rank b.rank

/-- The order of arrays: by the first items that differ, then by length. -/
def compareItems : List Json → List Json → Ordering
  | [], [] => .eq
  | [], _ :: _ => .lt
  | _ :: _, [] => .gt
  | x :: xs, y :: ys => (compareTo x y).then (compareItems xs ys)

/-- The order of objects: by the first fields that differ, keys before values, then by length. -/
def compareFields : List (String × Json) → List (String × Json) → Ordering
  | [], [] => .eq
  | [], _ :: _ => .lt
  | _ :: _, [] => .gt
  | (k, v) :: fs, (l, w) :: gs =>
    ((compare k l).then (compareTo v w)).then (compareFields fs gs)

end

/-- The order of sort keys; a missing one comes first. -/
def compareOptional : Option Json → Option Json → Ordering
  | none, none => .eq
  | none, some _ => .lt
  | some _, none => .gt
  | some a, some b => a.compareTo b

mutual

/-- Equality with numbers widened. -/
def equals : Json → Json → Bool
  | .null, .null => true
  | .bool a, .bool b => a == b
  | .num a, .num b => a.compareTo b == .eq
  | .str a, .str b => a == b
  | .arr xs, .arr ys => equalItems xs ys
  | .obj fs, .obj gs => fs.length == gs.length && equalFields fs gs
  | _, _ => false

/-- Equality of arrays, item by item. -/
def equalItems : List Json → List Json → Bool
  | [], [] => true
  | x :: xs, y :: ys => equals x y && equalItems xs ys
  | _, _ => false

/-- Every field has an equal value under its key in the other object. -/
def equalFields : List (String × Json) → List (String × Json) → Bool
  | [], _ => true
  | (k, v) :: rest, gs =>
    (match gs.lookup k with
      | some w => equals v w
      | none => false) && equalFields rest gs

end

end Json

end DocStore
