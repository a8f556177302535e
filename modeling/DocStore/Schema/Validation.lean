import DocStore.Schema.Basic

/-!
# Validation of writes

Documents and updates are checked against a schema before they are sent: declared fields are
coerced and checked, defaults are filled in, and undeclared fields are left as they are.
-/

namespace DocStore

namespace Schema

/-- The document after one declared field was checked against the document given. -/
def validateField (given : Fields) (out : Fields) (name : String) (d : FieldDef) :
    Result Fields :=
  match given.get? name with
  | some .null =>
    if d.required then .error (.validation name .nonNull (.value .null)) else .ok out
  | some v => do pure (out.insert name (← d.type.validate name v))
  | none =>
    match d.default with
    | some v => .ok (out.insert name v)
    | none => if d.required then .error (.validation name .presence .missing) else .ok out

/-- Checks and coerces a new document and fills in defaults. -/
def validateDocument (s : Schema) (document : Json) : Result Json :=
  match document with
  | .obj given => do
    let out ← s.fields.foldlM (fun out (name, d) => validateField given out name d) given
    pure (.obj out)
  | v => .error (.validation "<document>" .object (.value v))

/-- Checks and coerces the operand of an update operator on a declared field. -/
def validateOperand (operator field : String) (d : FieldDef) (v : Json) : Result Json :=
  match operator with
  | "$set" | "$setOnInsert" =>
    if v.isNull then
      if d.required then .error (.validation field .nonNull (.value .null)) else .ok v
    else d.type.validate field v
  | "$inc" =>
    match d.type.kind with
    | .int => d.type.kind.coerce field v
    | .float => d.type.kind.coerce field v
    | k => .error (.validation field .numericField (.kind k))
  | "$push" | "$addToSet" =>
    match d.type.kind with
    | .array element => element.coerce field v
    | k => .error (.validation field (.arrayField operator) (.kind k))
  | "$unset" => if d.required then .error (.validation field .stayingPresent .unset) else .ok v
  | _ => .ok v

/-- Checks and coerces the operands of one update operator. -/
def validateOperands (s : Schema) (operator : String) : Fields → Result Fields
  | [] => .ok []
  | (field, v) :: rest => do
    let w ← match s.field? field with
      | none => .ok v
      | some d => validateOperand operator field d v
    let ws ← s.validateOperands operator rest
    pure ((field, w) :: ws)

/-- Checks and coerces the operators of an update. -/
def validateOperators (s : Schema) : Fields → Result Fields
  | [] => .ok []
  | (operator, .obj args) :: rest => do
    let checked ← s.validateOperands operator args
    let others ← s.validateOperators rest
    pure ((operator, .obj checked) :: others)
  | (operator, v) :: _ => .error (.validation operator .fieldAssignments (.value v))

/-- Checks and coerces the operands of an update document. -/
def validateUpdate (s : Schema) (update : Json) : Result Json :=
  match update with
  | .obj operators => (s.validateOperators operators).map .obj
  | v => .error (.validation "<update>" .operatorDocument (.value v))

end Schema

end DocStore
