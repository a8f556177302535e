import DocStore.Aggregation.Expression
import DocStore.Aggregation.Fault

/-!
# Projections

A projection keeps the fields that it names, or drops them. Values that are neither a Boolean
nor a number are expressions for computed fields. The identifier is kept unless it is dropped.
-/

namespace DocStore.Aggregation

/-- Whether a value of a projection says to keep its field; `none` for an expression. -/
def keeps? : Json → Option Bool
  | .bool b => some b
  | .num n => some !n.toBinary64.isZero
  | _ => none

/-- Whether a projection drops fields other than the identifier. -/
def excludes (spec : Fields) : Bool := spec.any fun f => f.1 != "_id" && keeps? f.2 == some false

/-- Whether a projection keeps or computes fields other than the identifier. -/
def includes (spec : Fields) : Bool := spec.any fun f => f.1 != "_id" && keeps? f.2 != some false

/-- The document without the fields that a projection drops. -/
def exclude (spec : Fields) (doc : Json) : Json :=
  (spec.filter fun f => keeps? f.2 == some false).foldl (fun d f => d.removePath f.1) doc

/-- The identifier as an included field: there unless it is dropped or computed. -/
def keptId (spec : Fields) (doc : Json) : Fields :=
  let keeps := match spec.get? "_id" with
    | none => true
    | some v => keeps? v == some true
  if keeps then (doc.get? "_id").toList.map fun id => ("_id", id) else []

/-- Adds one field of an including projection. -/
def includeField (doc out : Json) (field : String) (v : Json) : Except Fault Json :=
  match keeps? v with
  | some false => .ok out
  | some true =>
    if field == "_id" then .ok out
    else match doc.getPath? field with
      | some value => write out field value
      | none => .ok out
  | none => write out field (evaluate doc v)

/-- The document after a projection. -/
def projectDocument (spec : Fields) (doc : Json) : Except Fault Json :=
  if excludes spec && includes spec then .error .projectMixed
  else if includes spec then
    spec.foldlM (fun out (field, v) => includeField doc out field v) (.obj (keptId spec doc))
  else .ok (exclude spec doc)

/-- Projects documents. -/
def project (spec : Json) (docs : List Json) : Except Fault (List Json) :=
  match spec with
  | .obj fs => docs.mapM (projectDocument fs)
  | _ => .error .projectNotObject

end DocStore.Aggregation
