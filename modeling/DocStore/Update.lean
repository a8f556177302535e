import DocStore.Json.Order
import DocStore.Json.Path
import DocStore.Json.Printer
import DocStore.Text.OperatorKey

/-!
# Updates of documents

An update document holds operators, each with the fields that it changes and their operands.
The operators are applied in order, on a document of their own, so a failing update changes
nothing.
-/

namespace DocStore

namespace Update

/-- Why an update cannot be applied. -/
inductive Fault where
  | notAnObject
  | noOperators
  | operandsNotObject (operator : String)
  | identifierChange
  | unknownOperator (operator : String)
  | pathBlocked (path : String)
  | incrementOperand (field : String) (operand : Json)
  | incrementTarget (field : String)
  | eachOperand
  | arrayTarget (field : String)

/-- The wording of a fault. -/
def Fault.message : Fault → String
  | .notAnObject => "update must be an object"
  | .noOperators => "update document requires atomic operators"
  | .operandsNotObject operator => operator ++ " needs an object of fields"
  | .identifierChange =>
    "Performing an update on the path '_id' would modify the immutable field '_id'"
  | .unknownOperator operator => "unknown update operator: " ++ operator
  | .pathBlocked path => Path.blockedMessage path
  | .incrementOperand field operand =>
    "Cannot increment with non-numeric argument: \x7b" ++ field ++ ": " ++ operand.render ++ "\x7d"
  | .incrementTarget field => s!"Cannot apply $inc to a value of non-numeric type at '{field}'"
  | .eachOperand => "$each requires an array"
  | .arrayTarget field => s!"The field '{field}' must be an array but is of a different type"

/-- Writes a value at a path. -/
def write (doc : Json) (path : String) (value : Json) : Except Fault Json :=
  doc.writePath .pathBlocked path value

/-- The sum of two numbers: exact while it fits 64 bits, a double otherwise, and null where that
leaves the finite range. -/
def sum (a b : Number) : Json :=
  let inexact := Json.ofBinary64? (a.toBinary64.add b.toBinary64)
  match a.asInt64?, b.asInt64? with
  | some i, some j => if FitsInt64 (i + j) then .int (i + j) else inexact
  | _, _ => inexact

/-- Adds to the number at a path; a missing one counts as zero. -/
def increment (doc : Json) (field : String) (operand : Json) : Except Fault Json :=
  match operand with
  | .num amount =>
    match doc.getPath? field with
    | none => write doc field (.num amount)
    | some (.num current) => write doc field (sum current amount)
    | some _ => .error (.incrementTarget field)
  | v => .error (.incrementOperand field v)

/-- The items that an operand adds to an array: those under `$each`, or itself. -/
def addedItems (operand : Json) : Except Fault (List Json) :=
  match operand.get? "$each" with
  | some (.arr xs) => .ok xs
  | some _ => .error .eachOperand
  | none => .ok [operand]

/-- Adds an item at the end, unless only new items are wanted and an equal one is there. -/
def addItem (unique : Bool) (xs : List Json) (x : Json) : List Json :=
  if unique && xs.any (·.equals x) then xs else xs ++ [x]

/-- Adds items to the array at a path; a missing one counts as empty. -/
def push (doc : Json) (field : String) (operand : Json) (unique : Bool) : Except Fault Json := do
  let added ← addedItems operand
  let current ← match doc.getPath? field with
    | none => pure []
    | some (.arr xs) => pure xs
    | some _ => throw (.arrayTarget field)
  write doc field (.arr (added.foldl (addItem unique) current))

/-- Applies one operator to one field. The identifier can only be set to the value it has. -/
def applyField (operator : String) (doc : Json) (field : String) (operand : Json) :
    Except Fault Json :=
  if field == "_id" then
    if operator == "$set" && (doc.getPath? "_id").any (·.equals operand) then .ok doc
    else .error .identifierChange
  else match operator with
    | "$set" => write doc field operand
    | "$unset" => .ok (doc.removePath field)
    | "$inc" => increment doc field operand
    | "$push" => push doc field operand false
    | "$addToSet" => push doc field operand true
    | _ => .error (.unknownOperator operator)

/-- Applies one operator to its fields in order. -/
def applyOperator (doc : Json) (operator : String) (operands : Json) : Except Fault Json :=
  match operands with
  | .obj fs => fs.foldlM (fun d (field, operand) => applyField operator d field operand) doc
  | _ => .error (.operandsNotObject operator)

/-- The document after an update. -/
def apply (doc update : Json) : Except Fault Json :=
  match update with
  | .obj operators =>
    if operators.isEmpty || !(operators.all fun f => Text.isOperatorKey f.1) then
      .error .noOperators
    else operators.foldlM (fun d (operator, operands) => applyOperator d operator operands) doc
  | _ => .error .notAnObject

end Update

end DocStore
