import DocStore.Error
import DocStore.Text.OperatorKey

/-!
# Predicates on fields

A predicate compares a field with an operand. It is written as a key `field__operator`; the
last double underscore separates, and a key without one means equality.
-/

namespace DocStore

/-- How a field is compared with an operand. -/
inductive Operator where
  | eq
  | gt
  | gte
  | lt
  | lte
  | isIn
  | notIn
  | regex
  | contains
  | exists
deriving DecidableEq, Repr

namespace Operator

/-- All operators. -/
def all : List Operator := [.eq, .gt, .gte, .lt, .lte, .isIn, .notIn, .regex, .contains, .exists]

/-- The suffix of an operator in a key. -/
def suffix : Operator → String
  | .eq => "eq"
  | .gt => "gt"
  | .gte => "gte"
  | .lt => "lt"
  | .lte => "lte"
  | .isIn => "in"
  | .notIn => "nin"
  | .regex => "regex"
  | .contains => "contains"
  | .exists => "exists"

/-- The operator with a suffix. -/
def ofSuffix? (s : String) : Option Operator := all.find? fun op => op.suffix == s

/-- The key of an operator in a query; a substring is searched for as a pattern. -/
def queryKey : Operator → String
  | .eq => "$eq"
  | .gt => "$gt"
  | .gte => "$gte"
  | .lt => "$lt"
  | .lte => "$lte"
  | .isIn => "$in"
  | .notIn => "$nin"
  | .regex => "$regex"
  | .contains => "$regex"
  | .exists => "$exists"

/-- Whether the constraints of the field apply to the operand. -/
def checksConstraints (op : Operator) : Bool := op == .eq || op == .isIn || op == .notIn

/-- Whether the operand is a list of values. -/
def takesList (op : Operator) : Bool := op == .isIn || op == .notIn

end Operator

/-- A comparison of a field with an operand as it was given. -/
structure Predicate where
  field : String
  operator : Operator
  value : Json

namespace Predicate

/-- The text before and after the last double underscore. -/
def splitKey? : List Char → Option (List Char × List Char)
  | [] => none
  | c :: rest =>
    match splitKey? rest with
    | some (field, suffix) => some (c :: field, suffix)
    | none =>
      match c, rest with
      | '_', '_' :: suffix => some ([], suffix)
      | _, _ => none

/-- Whether a text can be the field of a predicate. -/
def isFieldName (field : String) : Bool := !field.isEmpty && !Text.isOperatorKey field

/-- The field and the operator that a key names. -/
def parseKey (key : String) : Result (String × Operator) := do
  let (field, operator) ← match splitKey? key.toList with
    | some (field, suffix) =>
      match Operator.ofSuffix? (String.ofList suffix) with
      | some op => pure (String.ofList field, op)
      | none => throw (.validation key .knownOperator (.operatorSuffix (String.ofList suffix)))
    | none => pure (key, Operator.eq)
  if isFieldName field then pure (field, operator)
  else throw (.validation key .fieldName (.fieldName field))

/-- The predicate of a key and an operand. -/
def parse (key : String) (value : Json) : Result Predicate := do
  let (field, operator) ← parseKey key
  pure ⟨field, operator, value⟩

end Predicate

end DocStore
