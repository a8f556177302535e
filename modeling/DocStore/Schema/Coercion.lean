import DocStore.Binary64.Text
import DocStore.Error
import DocStore.Text.Blank
import DocStore.Timestamp

/-!
# Coercion

Values are brought into the form of a field's kind: numeric strings become numbers, whole
doubles become integers, words become booleans, and dates become timestamps in UTC. A value
with no such form is refused under the name of its field.
-/

namespace DocStore

namespace Kind

/-- The whole number that a double stands for, when it lies between the doubles nearest to the ends of
the range of 64 bits. The upper one is left out: it is not the end itself, but the next number. -/
def wholeNumber? (x : Binary64) : Option Int :=
  if x.isIntegral ∧ (Binary64.ofInt (-9223372036854775808)).units ≤ x.units ∧
      x.units < (Binary64.ofInt 9223372036854775807).units then
    some x.toInt64
  else none

/-- The boolean that a word stands for. -/
def boolWord? (s : String) : Option Bool :=
  let word := String.ofList ((Text.trim s.toList).map Char.toLower)
  if ["true", "1", "yes", "on"].contains word then some true
  else if ["false", "0", "no", "off"].contains word then some false
  else none

/-- The form of a scalar under a kind that is not an array. -/
def scalarForm? : Kind → Json → Option Json
  | .any, v => some v
  | .string, .str s => some (.str s)
  | .int, .num n =>
    match n.asInt64? with
    | some i => some (.int i)
    | none => (wholeNumber? n.toBinary64).map .int
  | .int, .str s => (Text.int64? (Text.trim s.toList)).map .int
  | .float, .num n => some (.num (.double n.toBinary64))
  | .float, .str s => (Binary64.ofText? (Text.trim s.toList)).map fun x => .num (.double x)
  | .bool, .bool b => some (.bool b)
  | .bool, .str s => (boolWord? s).map .bool
  | .bool, .num n =>
    match n.asInt64? with
    | some 0 => some (.bool false)
    | some 1 => some (.bool true)
    | _ => none
  | .datetime, .str s => (Timestamp.ofString? s).map fun t => .str t.text
  | .object, .obj fs => some (.obj fs)
  | _, _ => none

/-- Applies a function to the items of a list, numbered from `i` on, up to the first failure. -/
def mapNumbered (f : Nat → Json → Result Json) : Nat → List Json → Result (List Json)
  | _, [] => .ok []
  | i, x :: xs => do
    let y ← f i x
    let ys ← mapNumbered f (i + 1) xs
    pure (y :: ys)

/-- The form of a value under a kind. -/
def coerce (field : String) : Kind → Json → Result Json
  | .array element, .arr xs =>
    (mapNumbered (fun i x => coerce s!"{field}[{i}]" element x) 0 xs).map .arr
  | kind, v =>
    match kind.scalarForm? v with
    | some w => .ok w
    | none => .error (.validation field (.kind kind) (.value v))

end Kind

end DocStore
