import DocStore.Json

/-!
# Decoding values into records

A record is written as an object, or as an array of its fields in order. Keys that are not
fields are ignored; a field that is missing takes its default, if it has one.
-/

namespace DocStore.Json

/-- The fields of a record by position: `none` for one that is missing. An array with more items
than the record has fields is refused. -/
def recordFields? (keys : List String) : Json → Option (List (Option Json))
  | .obj fs => some (keys.map fun k => Fields.get? fs k)
  | .arr xs =>
    if xs.length ≤ keys.length then
      some (xs.map some ++ List.replicate (keys.length - xs.length) none)
    else none
  | _ => none

/-- A field that must be there. -/
def required? {α : Type} (decode : Json → Option α) (v : Option Json) : Option α := v.bind decode

/-- A field with a default; a null that is there is not missing. -/
def defaulted? {α : Type} (default : α) (decode : Json → Option α) : Option Json → Option α
  | none => some default
  | some v => decode v

/-- A field that may be missing or null. -/
def optional? {α : Type} (decode : Json → Option α) : Option Json → Option (Option α)
  | none => some none
  | some .null => some none
  | some v => (decode v).map some

/-- A boolean. -/
def asBool? : Json → Option Bool
  | .bool b => some b
  | _ => none

/-- An unsigned 32-bit integer. -/
def asNat32? (v : Json) : Option Nat :=
  v.asNat64?.bind fun n => if FitsNat32 n then some n else none

/-- A signed 32-bit integer. -/
def asInt32? (v : Json) : Option Int :=
  v.asInt64?.bind fun i => if FitsInt32 i then some i else none

end DocStore.Json
