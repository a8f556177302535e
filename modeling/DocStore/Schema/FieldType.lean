import DocStore.Json.Decode
import DocStore.Schema.Coercion

/-!
# Field types

A field type is a named kind with constraints that are checked after coercion: bounds on the
length of strings and arrays, bounds on numbers, and a pattern for strings. The standard types
are found by name. A field type has a JSON form, written by `FieldType.toJson` and read by
`FieldType.ofJson?`.
-/

namespace DocStore

/-- The constraints of a field type. -/
structure Constraints where
  minLength : Option Nat := none
  maxLength : Option Nat := none
  min : Option Binary64 := none
  max : Option Binary64 := none
  pattern : Option String := none
deriving DecidableEq

/-- A kind with a name and constraints. -/
structure FieldType where
  name : String
  kind : Kind
  constraints : Constraints := {}
deriving DecidableEq

namespace FieldType

/-! ## Building -/

/-- The type with these bounds on its length. -/
def length (t : FieldType) (min max : Option Nat) : FieldType :=
  { t with constraints := { t.constraints with minLength := min, maxLength := max } }

/-- The type with these bounds on its numbers. -/
def range (t : FieldType) (min max : Option Binary64) : FieldType :=
  { t with constraints := { t.constraints with min := min, max := max } }

/-- The type with a pattern that was checked elsewhere. -/
def withPattern (t : FieldType) (pattern : String) : FieldType :=
  { t with constraints := { t.constraints with pattern := some pattern } }

/-- The regular expression of a pattern of the type. -/
def compilePattern (t : FieldType) (pattern : String) : Result Regex :=
  match Regex.ofString pattern with
  | .ok r => .ok r
  | .error fault => .error (.validation t.name .validFormat (.badPattern fault))

/-- The type with a pattern, which must be well formed. -/
def pattern (t : FieldType) (pattern : String) : Result FieldType := do
  let _ ← t.compilePattern pattern
  pure (t.withPattern pattern)

/-! ## Standard types -/

/-- An array with elements of a kind. -/
def array (element : Kind) : FieldType := ⟨"array", .array element, {}⟩

/-- The standard types, each under its names. -/
def standard : List (List String × FieldType) :=
  [(["string", "str"], ⟨"string", .string, {}⟩),
   (["int", "integer"], ⟨"int", .int, {}⟩),
   (["float", "number"], ⟨"float", .float, {}⟩),
   (["bool", "boolean"], ⟨"bool", .bool, {}⟩),
   (["datetime"], ⟨"datetime", .datetime, {}⟩),
   (["object"], ⟨"object", .object, {}⟩),
   (["any"], ⟨"any", .any, {}⟩),
   (["name"], length ⟨"name", .string, {}⟩ (some 1) (some 100)),
   (["email"], (length ⟨"email", .string, {}⟩ none (some 254)).withPattern
     "^[^@\\s]+@[^@\\s]+\\.[^@\\s]+$"),
   (["age"], range ⟨"age", .int, {}⟩ (some (.ofNat 0)) (some (.ofNat 150))),
   (["title"], length ⟨"title", .string, {}⟩ (some 1) (some 200)),
   (["content"], length ⟨"content", .string, {}⟩ (some 1) (some 50000)),
   (["description"], length ⟨"description", .string, {}⟩ none (some 1000)),
   (["username"], (length ⟨"username", .string, {}⟩ (some 3) (some 30)).withPattern
     "^[A-Za-z0-9_]+$"),
   (["url"], withPattern ⟨"url", .string, {}⟩ "^https?://\\S+$"),
   (["phone"], withPattern ⟨"phone", .string, {}⟩ "^\\+?[0-9 ()\\-]\x7b7,20\x7d$"),
   (["price"], range ⟨"price", .float, {}⟩ (some (.ofNat 0)) none)]

/-- The standard type with a name, in any case of its ASCII letters. -/
def standard? (name : String) : Option FieldType :=
  let name := String.ofList (name.toList.map Char.toLower)
  (standard.find? fun entry => entry.1.contains name).map (·.2)

/-! ## Coercion and checks -/

/-- The length that bounds apply to. -/
def lengthOf? : Json → Option Nat
  | .str s => some s.length
  | .arr xs => some xs.length
  | _ => none

/-- Refuses a length outside the bounds. -/
def checkLength (t : FieldType) (field : String) (v : Json) : Result Unit :=
  match lengthOf? v with
  | none => .ok ()
  | some n =>
    if t.constraints.minLength.any (n < ·) then
      .error (.validation field (.lengthAtLeast t.name (t.constraints.minLength.getD 0)) (.length n))
    else if t.constraints.maxLength.any (· < n) then
      .error (.validation field (.lengthAtMost t.name (t.constraints.maxLength.getD 0)) (.length n))
    else .ok ()

/-- Refuses a number outside the bounds. -/
def checkRange (t : FieldType) (field : String) (v : Json) : Result Unit := do
  if let some x := v.asBinary64? then
    if let some min := t.constraints.min then
      if x.compareValue min == .lt then throw (.validation field (.atLeast t.name min) (.value v))
    if let some max := t.constraints.max then
      if x.compareValue max == .gt then throw (.validation field (.atMost t.name max) (.value v))

/-- Refuses a string that the pattern does not match. The pattern itself is checked first. -/
def checkPattern (t : FieldType) (field : String) (v : Json) : Result Unit :=
  match t.constraints.pattern with
  | none => .ok ()
  | some p => do
    let r ← t.compilePattern p
    match v with
    | .str s =>
      if r.isMatch s then .ok () else .error (.validation field (.format t.name) (.value v))
    | _ => .ok ()

/-- Checks the constraints on a value that was already coerced. -/
def check (t : FieldType) (field : String) (v : Json) : Result Unit := do
  t.checkLength field v
  t.checkRange field v
  t.checkPattern field v

/-- Coerces a value and checks the constraints. -/
def validate (t : FieldType) (field : String) (v : Json) : Result Json := do
  let w ← t.kind.coerce field v
  t.check field w
  pure w

end FieldType

/-! ## JSON form -/

/-- The fields of an object that are there. -/
def Json.present (fields : List (String × Option Json)) : Json :=
  .obj (fields.filterMap fun (k, v) => v.map (k, ·))

/-- The fields that describe a kind. -/
def Kind.toFields : Kind → Fields
  | .array element => [("type", .str "array"), ("element", .obj element.toFields)]
  | k => [("type", .str k.name)]

/-- The simple kinds and arrays by position, the way a kind may be numbered. -/
def Kind.tagNames : List String :=
  ["string", "int", "float", "bool", "datetime", "array", "object", "any"]

/-- The tag of a kind: its name or its number. -/
def Kind.tag? : Json → Option String
  | .str s => if tagNames.contains s then some s else none
  | v => v.asNat64?.bind (tagNames[·]?)

/-- The kind of a tag that needs no element. -/
def Kind.ofTag? : String → Option Kind
  | "string" => some .string
  | "int" => some .int
  | "float" => some .float
  | "bool" => some .bool
  | "datetime" => some .datetime
  | "object" => some .object
  | "any" => some .any
  | _ => none

/-- The kind that a value describes, an object with a tag or an array that starts with one, at
most `fuel` levels deep. -/
def Kind.ofJson? : Nat → Json → Option Kind
  | 0, _ => none
  | fuel + 1, .obj fs => do
    match ← Kind.tag? (← Fields.get? fs "type") with
    | "array" => do pure (.array (← Kind.ofJson? fuel (← Fields.get? fs "element")))
    | tag => Kind.ofTag? tag
  | fuel + 1, .arr (first :: rest) => do
    match ← Kind.tag? first, rest with
    | "array", [element] => do pure (.array (← Kind.ofJson? fuel element))
    | tag, [] => Kind.ofTag? tag
    | _, _ => none
  | _, _ => none

/-- How deeply a value is nested. -/
def Json.depth : Json → Nat
  | .arr xs => depthOfItems xs + 1
  | .obj fs => depthOfFields fs + 1
  | _ => 0
where
  /-- The depth of the deepest item. -/
  depthOfItems : List Json → Nat
    | [] => 0
    | x :: xs => max x.depth (depthOfItems xs)
  /-- The depth of the deepest field. -/
  depthOfFields : List (String × Json) → Nat
    | [] => 0
    | (_, v) :: rest => max v.depth (depthOfFields rest)

namespace Constraints

/-- The JSON form; constraints that are not set are left out. -/
def toJson (c : Constraints) : Json :=
  .present [("min_length", c.minLength.map .nat), ("max_length", c.maxLength.map .nat),
    ("min", c.min.map fun x => .num (.double x)), ("max", c.max.map fun x => .num (.double x)),
    ("pattern", c.pattern.map .str)]

/-- The constraints that a value describes. -/
def ofJson? (v : Json) : Option Constraints := do
  match ← v.recordFields? ["min_length", "max_length", "min", "max", "pattern"] with
  | [minLength, maxLength, min, max, pattern] =>
    pure {
      minLength := ← Json.optional? Json.asNat64? minLength
      maxLength := ← Json.optional? Json.asNat64? maxLength
      min := ← Json.optional? Json.asBinary64? min
      max := ← Json.optional? Json.asBinary64? max
      pattern := ← Json.optional? Json.text? pattern }
  | _ => none

end Constraints

namespace FieldType

/-- The JSON form. -/
def toJson (t : FieldType) : Json :=
  .obj (("name", .str t.name) :: t.kind.toFields ++ [("constraints", t.constraints.toJson)])

/-- The field type that an object describes. -/
def ofJson? : Json → Option FieldType
  | .obj fs => do
    let name ← (← Fields.get? fs "name").text?
    let kind ← Kind.ofJson? ((Json.obj fs).depth + 1) (.obj fs)
    let constraints ← Json.defaulted? {} Constraints.ofJson? (Fields.get? fs "constraints")
    pure ⟨name, kind, constraints⟩
  | _ => none

end FieldType

end DocStore
