import DocStore.Json.Path
import DocStore.Text.OperatorKey

/-!
# Expressions

An expression computes a value from a document: a text that begins with a dollar sign reads the
field at a path, an object without operators is evaluated field by field, and all else is a
literal. `$literal` marks a value that is not evaluated.
-/

namespace DocStore.Aggregation

/-- The path that a text reads, when it begins with a dollar sign. -/
def fieldPath? (s : String) : Option String :=
  match s.toList with
  | '$' :: path => some (String.ofList path)
  | _ => none

mutual

/-- The value of an expression on a document, when there is one. -/
def evaluate? (doc : Json) : Json → Option Json
  | .str s =>
    match fieldPath? s with
    | some path => doc.getPath? path
    | none => some (.str s)
  | .obj fs =>
    if fs.any fun f => Text.isOperatorKey f.1 then
      match fs with
      | [("$literal", v)] => some v
      | fs => some (.obj fs)
    else some (.obj (evaluateFields doc fs))
  | v => some v

/-- The fields of an object of expressions; those without a value are left out. -/
def evaluateFields (doc : Json) : List (String × Json) → Fields
  | [] => []
  | (k, e) :: rest =>
    match evaluate? doc e with
    | some v => (k, v) :: evaluateFields doc rest
    | none => evaluateFields doc rest

end

/-- The value of an expression on a document, null when there is none. -/
def evaluate (doc expr : Json) : Json := (evaluate? doc expr).getD .null

end DocStore.Aggregation
