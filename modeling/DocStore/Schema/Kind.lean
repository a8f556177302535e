/-!
# Kinds of values

What a declared field holds. The kind of a field drives the coercion of the values written to
it.
-/

namespace DocStore

/-- The kind of the values of a field. -/
inductive Kind where
  | string
  | int
  | float
  | bool
  | datetime
  | array (element : Kind)
  | object
  | any
deriving DecidableEq, Repr, Inhabited

namespace Kind

/-- The name of a kind in messages. -/
def name : Kind → String
  | .string => "string"
  | .int => "int"
  | .float => "float"
  | .bool => "bool"
  | .datetime => "datetime"
  | .array _ => "array"
  | .object => "object"
  | .any => "any"

/-- The kind of the elements of an array, any other kind itself. -/
def scalar : Kind → Kind
  | .array element => element
  | k => k

end Kind

end DocStore
