import DocStore.Aggregation.Fault

/-!
# Joining and unwinding

`lookup` adds to each document the documents of another collection that belong to it, as an
array. `unwind` makes one document for each item of an array.
-/

namespace DocStore.Aggregation

/-- A text among the parameters of a stage. -/
def textParameter (stage parameter : String) (spec : Json) : Except Fault String :=
  match spec.get? parameter with
  | some (.str s) => .ok s
  | _ => .error (.missingParameter stage parameter)

/-- Whether a foreign value belongs to a local one: they are equal, or one of the items of a
local array is. A missing local value counts as null. -/
def joins (localValue foreignValue : Option Json) : Bool :=
  match localValue with
  | some (.arr xs) => xs.any (Query.equalTo foreignValue)
  | some v => Query.equalTo foreignValue v
  | none => Query.equalTo foreignValue .null

/-- The documents of another collection that belong to a document. -/
def partners (localField foreignField : String) (foreign : List Json) (doc : Json) : List Json :=
  foreign.filter fun f => joins (doc.getPath? localField) (f.getPath? foreignField)

/-- Adds to each document, under an alias, its partners in another collection. -/
def lookup (collections : String → List Json) (spec : Json) (docs : List Json) :
    Except Fault (List Json) := do
  let source ← textParameter "$lookup" "from" spec
  let localField ← textParameter "$lookup" "localField" spec
  let foreignField ← textParameter "$lookup" "foreignField" spec
  let target ← textParameter "$lookup" "as" spec
  docs.mapM fun d => write d target (.arr (partners localField foreignField (collections source) d))

/-- What to unwind. -/
structure UnwindSpec where
  /-- The path without its leading dollar sign. -/
  field : String
  /-- Whether documents without items stay. -/
  preserve : Bool

/-- Reads what to unwind. -/
def UnwindSpec.ofJson (spec : Json) : Except Fault UnwindSpec := do
  let (path, preserve) ← match spec with
    | .str path => .ok (path, false)
    | .obj fs => do
      let path ← textParameter "$unwind" "path" (.obj fs)
      let preserve := match Fields.get? fs "preserveNullAndEmptyArrays" with
        | some (.bool b) => b
        | _ => false
      pure (path, preserve)
    | _ => .error .unwindShape
  match path.toList with
  | '$' :: field => .ok ⟨String.ofList field, preserve⟩
  | _ => .error (.unwindPath path)

/-- The documents that a document unwinds into. -/
def UnwindSpec.documents (s : UnwindSpec) (doc : Json) : Except Fault (List Json) :=
  let without := if s.preserve then [doc] else []
  match doc.getPath? s.field with
  | some (.arr []) => .ok without
  | some (.arr xs) => xs.mapM fun x => write doc s.field x
  | some .null => .ok without
  | none => .ok without
  | some _ => .ok [doc]

/-- Unwinds documents. -/
def unwind (spec : Json) (docs : List Json) : Except Fault (List Json) := do
  let s ← UnwindSpec.ofJson spec
  pure (← docs.mapM s.documents).flatten

end DocStore.Aggregation
