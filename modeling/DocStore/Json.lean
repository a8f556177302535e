import DocStore.Binary64
import DocStore.Words

/-!
# JSON values

Values with integers and doubles kept apart, arrays as lists, and objects as ordered lists of
fields. `Fields` holds the operations on objects: looking up a key, writing a key in place or at
the end, and removing a key by moving the last field into its position. `Json.same` is equality
up to the order of object keys.
-/

namespace DocStore

/-- A number as it was written: an integer of 64 bits, or a finite double. -/
inductive Number where
  | int (value : Int)
  | double (value : Binary64)
deriving DecidableEq, Inhabited

/-- A JSON value; the fields of an object keep their order. -/
inductive Json where
  | null
  | bool (value : Bool)
  | num (value : Number)
  | str (value : String)
  | arr (items : List Json)
  | obj (fields : List (String × Json))
deriving Inhabited

/-- The fields of an object, in order. -/
abbrev Fields := List (String × Json)

namespace Number

/-- The value as a signed 64-bit integer, when it is one and is written as one. -/
def asInt64? : Number → Option Int
  | .int i => if FitsInt64 i then some i else none
  | .double _ => none

/-- The value as an unsigned 64-bit integer, when it is written as one. -/
def asNat64? : Number → Option Nat
  | .int i => if 0 ≤ i ∧ FitsNat64 i.toNat then some i.toNat else none
  | .double _ => none

/-- The nearest double. -/
def toBinary64 : Number → Binary64
  | .int i => .ofInt i
  | .double x => x

/-- Equality of numbers of one form; an integer never equals a double. -/
def same : Number → Number → Bool
  | .int i, .int j => i == j
  | .double x, .double y => x.sameValue y
  | _, _ => false

end Number

namespace Fields

/-- The value under a key. -/
def get? (fields : Fields) (key : String) : Option Json := List.lookup key fields

/-- Whether a key is present. -/
def contains (fields : Fields) (key : String) : Bool := (fields.get? key).isSome

/-- Writes a key: in place when it is present, at the end otherwise. -/
def insert (key : String) (value : Json) : Fields → Fields
  | [] => [(key, value)]
  | (k, v) :: rest => if k == key then (k, value) :: rest else (k, v) :: insert key value rest

/-- Removes a key; the last field moves into its position. -/
def erase (key : String) : Fields → Fields
  | [] => []
  | (k, v) :: rest =>
    if k == key then
      match rest.getLast? with
      | some last => last :: rest.dropLast
      | none => []
    else (k, v) :: erase key rest

/-- The fields in the order written, a repeated key keeping its first position and its last
value. -/
def ofList (fields : List (String × Json)) : Fields :=
  fields.foldl (fun acc (k, v) => insert k v acc) []

end Fields

namespace Json

/-- An integer value. -/
def int (i : Int) : Json := .num (.int i)

/-- A natural number value. -/
def nat (n : Nat) : Json := .num (.int n)

/-- A double, or null where the computation left the finite range. -/
def ofBinary64? : Option Binary64 → Json
  | some x => .num (.double x)
  | none => .null

/-- The fields of an object. -/
def fields? : Json → Option Fields
  | .obj fs => some fs
  | _ => none

/-- The items of an array. -/
def items? : Json → Option (List Json)
  | .arr xs => some xs
  | _ => none

/-- The text of a string. -/
def text? : Json → Option String
  | .str s => some s
  | _ => none

/-- The value under a key of an object. -/
def get? (key : String) : Json → Option Json
  | .obj fs => Fields.get? fs key
  | _ => none

/-- The value as a signed 64-bit integer. -/
def asInt64? : Json → Option Int
  | .num n => n.asInt64?
  | _ => none

/-- The value as an unsigned 64-bit integer. -/
def asNat64? : Json → Option Nat
  | .num n => n.asNat64?
  | _ => none

/-- The value as a double. -/
def asBinary64? : Json → Option Binary64
  | .num n => some n.toBinary64
  | _ => none

def isNull : Json → Bool
  | .null => true
  | _ => false

def isObject : Json → Bool
  | .obj _ => true
  | _ => false

mutual

/-- Equality up to the order of object keys. -/
def same : Json → Json → Bool
  | .null, .null => true
  | .bool a, .bool b => a == b
  | .num a, .num b => a.same b
  | .str a, .str b => a == b
  | .arr xs, .arr ys => sameItems xs ys
  | .obj fs, .obj gs => fs.length == gs.length && sameFields fs gs
  | _, _ => false

/-- Equality of arrays, item by item. -/
def sameItems : List Json → List Json → Bool
  | [], [] => true
  | x :: xs, y :: ys => same x y && sameItems xs ys
  | _, _ => false

/-- Every field has an equal value under its key in the other object. -/
def sameFields : List (String × Json) → List (String × Json) → Bool
  | [], _ => true
  | (k, v) :: rest, gs =>
    (match gs.lookup k with
      | some w => same v w
      | none => false) && sameFields rest gs

end

end Json

end DocStore
