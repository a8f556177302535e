import DocStore.Schema.FieldType

/-!
# Field types that keep their regular expression

The pattern of a field type is compiled once. A type whose pattern was checked when it was built has
the regular expression from then on; a standard type, and a type that was read from its JSON form,
compiles its pattern when it first comes to check a value, and keeps what comes out if that is no
fault. The JSON form leaves the regular expression out.
-/

namespace DocStore

/-- A field type with the regular expression of its pattern, once there is one. -/
structure CachedType where
  type : FieldType
  compiled? : Option Regex := none

namespace CachedType

/-! ## Building -/

/-- A type without constraints. -/
def new (name : String) (kind : Kind) : CachedType := { type := ⟨name, kind, {}⟩ }

/-- The type with these bounds on its length. -/
def length (t : CachedType) (min max : Option Nat) : CachedType :=
  { t with type := t.type.length min max }

/-- The type with these bounds on its numbers. -/
def range (t : CachedType) (min max : Option Binary64) : CachedType :=
  { t with type := t.type.range min max }

/-- The type with a pattern, which must be well formed; it is compiled at once. -/
def pattern (t : CachedType) (pattern : String) : Result CachedType := do
  let r ← t.type.compilePattern pattern
  pure ⟨t.type.withPattern pattern, some r⟩

/-! ## Checks -/

/-- The regular expression of the pattern, if the type has one, and the type that keeps it. -/
def compiledPattern (t : CachedType) : Result (Option Regex) × CachedType :=
  match t.type.constraints.pattern with
  | none => (.ok none, t)
  | some source =>
    match t.compiled? with
    | some r => (.ok (some r), t)
    | none =>
      match t.type.compilePattern source with
      | .ok r => (.ok (some r), { t with compiled? := some r })
      | .error e => (.error e, t)

/-- Refuses a string that a regular expression does not match. -/
def checkMatch (t : CachedType) (field : String) : Option Regex → Json → Result Unit
  | some r, .str s =>
    if r.isMatch s then .ok ()
    else .error (.validation field (.format t.type.name) (.value (.str s)))
  | _, _ => .ok ()

/-- Checks the constraints on a value that was already coerced. -/
def check (t : CachedType) (field : String) (v : Json) : Result Unit × CachedType :=
  match t.type.checkLength field v with
  | .error e => (.error e, t)
  | .ok () =>
    match t.type.checkRange field v with
    | .error e => (.error e, t)
    | .ok () =>
      let (found, t) := t.compiledPattern
      (found.bind fun r => t.checkMatch field r v, t)

/-- Coerces a value and checks the constraints. -/
def validate (t : CachedType) (field : String) (v : Json) : Result Json × CachedType :=
  match t.type.kind.coerce field v with
  | .error e => (.error e, t)
  | .ok w =>
    let (checked, t) := t.check field w
    (checked.map fun _ => w, t)

/-- What comes of one value after the other, under the names of their fields. -/
def validateAll (t : CachedType) : List (String × Json) → List (Result Json)
  | [] => []
  | (field, v) :: rest =>
    let (result, t) := t.validate field v
    result :: t.validateAll rest

/-! ## JSON form -/

/-- The JSON form. -/
def toJson (t : CachedType) : Json := t.type.toJson

/-- The field type that an object describes; its pattern is not compiled yet. -/
def ofJson? (v : Json) : Option CachedType := (FieldType.ofJson? v).map fun type => { type }

end CachedType

end DocStore
