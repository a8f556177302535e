import DocStore.Filter.Basic
import DocStore.Schema.Basic

/-!
# Queries of filters

`Filter.toQuery` writes a filter as a query document of the store. Operands are coerced through
the declared types of their fields. Predicates on one field share its key: equality alone is
the bare operand, and otherwise each operator has its own key, at most once.
-/

namespace DocStore

/-- A document with one field. -/
def Json.single (key : String) (value : Json) : Json := .obj [(key, value)]

namespace Query

/-- Selects every document. -/
def everything : Json := .obj []

/-- Selects no document. -/
def nothing : Json := .single "$nor" (.arr [everything])

/-- Selects what all queries select. -/
def allOf (queries : List Json) : Json := .single "$and" (.arr queries)

end Query

namespace Predicate

/-- Refuses operands that would be read as operators. -/
def checkPlain (field : String) (v : Json) : Result Unit :=
  match v with
  | .obj fs =>
    match fs.find? fun f => Text.isOperatorKey f.1 with
    | some (k, _) => .error (.validation field .plainValue (.operatorKey k))
    | none => .ok ()
  | _ => .ok ()

/-- Coerces an operand that is compared with the value of a field. On an array field, an array
is compared as a whole and any other operand with the elements. -/
def coerceOperand (types : FieldLookup) (field : String) (op : Operator) (v : Json) :
    Result Json := do
  checkPlain field v
  match types field with
  | none => pure v
  | some t =>
    if v.isNull then pure .null
    else match t.kind, v with
      | .array element, .arr xs => (Kind.array element).coerce field (.arr xs)
      | .array element, v => element.coerce field v
      | kind, v => do
        let w ← kind.coerce field v
        if op.checksConstraints then t.check field w
        pure w

/-- The operand of a predicate as it stands in a query. -/
def operand (types : FieldLookup) (p : Predicate) : Result Json :=
  let refuse (expected : Expected) : Result Json :=
    .error (.validation p.field expected (.value p.value))
  match p.operator with
  | .exists => Kind.bool.coerce p.field p.value
  | .regex =>
    match p.value with
    | .str pattern =>
      match Regex.ofString pattern with
      | .ok _ => .ok (.str pattern)
      | .error fault => .error (.validation p.field .validPattern (.badPattern fault))
    | _ => refuse .patternText
  | .contains =>
    match p.value with
    | .str needle =>
      match types p.field with
      | some t =>
        if t.kind.scalar == .string || t.kind.scalar == .any then .ok (.str (Regex.escape needle))
        else .error (.validation p.field .stringField (.kind t.kind))
      | none => .ok (.str (Regex.escape needle))
    | _ => refuse .substring
  | .isIn =>
    match p.value with
    | .arr xs => do pure (.arr (← xs.mapM (coerceOperand types p.field .isIn)))
    | _ => refuse .listOfValues
  | .notIn =>
    match p.value with
    | .arr xs => do pure (.arr (← xs.mapM (coerceOperand types p.field .notIn)))
    | _ => refuse .listOfValues
  | op => coerceOperand types p.field op p.value

/-- The fields of a query read so far, each with its operators and operands. -/
abbrev Groups := List (String × Fields)

/-- Adds an operator to the group of its field; new fields come last. -/
def addToGroup (field key : String) (operand : Json) : Groups → Result Groups
  | [] => .ok [(field, [(key, operand)])]
  | (f, ops) :: rest =>
    if f == field then
      if Fields.contains ops key then .error (.compile (.conflictingPredicates field key))
      else .ok ((f, ops ++ [(key, operand)]) :: rest)
    else (addToGroup field key operand rest).map ((f, ops) :: ·)

/-- The operators of a field as they stand in a query. -/
def renderGroup : Fields → Json
  | [("$eq", v)] => v
  | ops => .obj ops

/-- The query of predicates that must all hold. -/
def queryOf (types : FieldLookup) (ps : List Predicate) : Result Json := do
  let groups ← ps.foldlM (fun groups p => do
    addToGroup p.field p.operator.queryKey (← p.operand types) groups) []
  pure (.obj (groups.map fun (field, ops) => (field, renderGroup ops)))

end Predicate

namespace Node

mutual

/-- The query of a tree. A negated predicate is negated at its field, any other tree as a
whole. -/
def toQuery (types : FieldLookup) : Node → Result Json
  | .leaf p => Predicate.queryOf types [p]
  | .and [] => .ok Query.everything
  | .and (n :: ns) => do
    let q ← n.toQuery types
    let qs ← toQueries types ns
    pure (Query.allOf (q :: qs))
  | .or [] => .ok Query.nothing
  | .or (n :: ns) => do
    let q ← n.toQuery types
    let qs ← toQueries types ns
    pure (.single "$or" (.arr (q :: qs)))
  | .not (.leaf p) => do
    let operand ← p.operand types
    pure (.single p.field (.single "$not" (.single p.operator.queryKey operand)))
  | .not child => do pure (.single "$nor" (.arr [← child.toQuery types]))

/-- The queries of trees, in order. -/
def toQueries (types : FieldLookup) : List Node → Result (List Json)
  | [] => .ok []
  | n :: ns => do
    let q ← n.toQuery types
    let qs ← toQueries types ns
    pure (q :: qs)

end

end Node

namespace Filter

/-- The queries whose conjunction a filter is. -/
def parts (types : FieldLookup) (f : Filter) : Result (List Json) := do
  let own ← if f.predicates.isEmpty then pure [] else do
    let ps ← f.predicates.mapM fun (k, v) => Predicate.parse k v
    pure [← Predicate.queryOf types ps]
  let others ← Node.toQueries types f.combinators
  pure (own ++ others)

/-- The query document of a filter. -/
def toQuery (types : FieldLookup) (f : Filter) : Result Json := do
  match ← f.parts types with
  | [] => pure Query.everything
  | [q] => pure q
  | qs => pure (Query.allOf qs)

end Filter

end DocStore
