import DocStore.Schema.FieldType
import DocStore.Text.OperatorKey

/-!
# Schemas

A schema names a collection and declares its fields in order. The registry holds one checked
schema per collection and is only read once it is complete.
-/

namespace DocStore

/-- What is declared about a field. -/
structure FieldDef where
  type : FieldType
  /-- Whether a new document must have the field. -/
  required : Bool
  /-- The value of the field in a new document that does not have it. -/
  default : Option Json

namespace FieldDef

/-- A field that a document must have. -/
def mandatory (type : FieldType) : FieldDef := ⟨type, true, none⟩

/-- A field that a document may have. -/
def optional (type : FieldType) : FieldDef := ⟨type, false, none⟩

/-- A field with a default. -/
def withDefault (type : FieldType) (default : Json) : FieldDef := ⟨type, false, some default⟩

end FieldDef

/-- The declared fields of a collection. -/
structure Schema where
  name : String
  fields : List (String × FieldDef)

namespace Schema

/-- Adds or replaces the definition under a name. -/
def defineIn (name : String) (d : FieldDef) : List (String × FieldDef) → List (String × FieldDef)
  | [] => [(name, d)]
  | (n, e) :: rest => if n == name then (n, d) :: rest else (n, e) :: defineIn name d rest

/-- Adds a field, or replaces the one with its name in place. -/
def define (s : Schema) (name : String) (d : FieldDef) : Schema :=
  { s with fields := defineIn name d s.fields }

/-- The definition of a field. -/
def field? (s : Schema) (name : String) : Option FieldDef := s.fields.lookup name

/-- Checks a field definition: its name, and that its default fits its type. -/
def checkField (s : Schema) (name : String) (d : FieldDef) : Result Unit :=
  if name.isEmpty || Text.isOperatorKey name then .error (.compile (.badFieldName name s.name))
  else match d.default with
    | some v => (d.type.validate name v).map fun _ => ()
    | none => .ok ()

/-- Checks the schema itself. -/
def checkStructure (s : Schema) : Result Unit :=
  if s.name.isEmpty then .error (.compile .unnamedSchema)
  else s.fields.forM fun (name, d) => s.checkField name d

end Schema

/-- The type of a field, where one is declared. -/
abbrev FieldLookup := String → Option FieldType

namespace FieldLookup

/-- The types that a schema declares, if there is one. -/
def ofSchema? (schema : Option Schema) : FieldLookup := fun name =>
  schema.bind fun s => (s.field? name).map (·.type)

end FieldLookup

/-- The schemas by collection, in the order registered. -/
structure Registry where
  schemas : List Schema := []

namespace Registry

/-- The schema of a collection. -/
def get? (r : Registry) (collection : String) : Option Schema :=
  r.schemas.find? fun s => s.name == collection

/-- Whether a collection has a schema. -/
def contains (r : Registry) (collection : String) : Bool := (r.get? collection).isSome

/-- Adds a schema, which must be sound in itself and new. -/
def register (r : Registry) (s : Schema) : Result Registry := do
  s.checkStructure
  if r.contains s.name then .error (.compile (.schemaTaken s.name))
  else pure ⟨r.schemas ++ [s]⟩

/-- The number of schemas. -/
def size (r : Registry) : Nat := r.schemas.length

/-- The collections that have a schema, in the order of their names. -/
def collections (r : Registry) : List String :=
  (r.schemas.map (·.name)).mergeSort fun a b => a ≤ b

end Registry

end DocStore
