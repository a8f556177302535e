import DocStore.Json.Describe
import DocStore.Regex.Meaning
import DocStore.Schema.Kind

/-!
# Errors

Every failure that a caller sees is an `Error`: the input was refused, either because a value
does not fit its field or because it cannot be compiled, or the store could not be reached in
time, or the store itself refused. `Error.message` has the wording of each cause.
-/

namespace DocStore

/-- What a field, or another named part of the input, should have been. -/
inductive Expected where
  | kind (k : Kind)
  | lengthAtLeast (type : String) (n : Nat)
  | lengthAtMost (type : String) (n : Nat)
  | atLeast (type : String) (bound : Binary64)
  | atMost (type : String) (bound : Binary64)
  | format (type : String)
  | validFormat
  | nonNull
  | presence
  | stayingPresent
  | object
  | operatorDocument
  | fieldAssignments
  | numericField
  | arrayField (operator : String)
  | stringField
  | knownOperator
  | fieldName
  | fieldPredicates
  | patternText
  | validPattern
  | substring
  | listOfValues
  | plainValue
  | someDocument
  | someField
  | oneUpdateForm
  | clientConfig
  | readableConfig
  | positiveInteger
  | milliseconds
  | atLeastOne
  | nonEmptyName

/-- What was there instead. -/
inductive Found where
  | value (v : Json)
  | length (n : Nat)
  | missing
  | unset
  | kind (k : Kind)
  | badPattern (fault : Regex.Fault)
  | operatorSuffix (suffix : String)
  | fieldName (name : String)
  | operatorKey (key : String)
  | emptyList
  | emptyObject
  | mixedUpdate
  | text (s : String)

/-- Why an input with acceptable values cannot be compiled. -/
inductive CompileFault where
  | unnamedSchema
  | badFieldName (field schema : String)
  | schemaTaken (collection : String)
  | conflictingPredicates (field operator : String)
  | accumulatorsNotObject (given : Json)
  | emptyOutputName
  | reservedOutputName
  | dottedOutputName (name : String)
  | operatorOutputName (name : String)
  | unknownAccumulator (operator name : String) (known : List String)
  | accumulatorShape (name : String)
  | sortEmpty
  | sortFieldEmpty (stage : Bool)
  | sortDirection (stage : Bool) (field : String) (direction : Int)
  | sortFieldTwice (stage : Bool) (field : String)
  | limitZero
  | lookupEmpty (parameter : String)
  | unwindUndeclared (target : String)
  | unwindEmpty
  | projectNotObject (given : Json)
  | projectEmpty
  | projectFieldEmpty (stage : Bool)
  | projectValue (field : String) (given : Json)
  | projectMixed (stage : Bool)

/-- A failure. -/
inductive Error where
  /-- A part of the input is not what it should be. -/
  | validation (field : String) (expected : Expected) (actual : Found)
  /-- The input cannot be compiled. -/
  | compile (fault : CompileFault)
  /-- The deadline, in milliseconds, has passed. -/
  | timeout (limit : Nat)
  /-- No connection to the store. -/
  | connection (message : String)
  /-- The store refused. -/
  | store (message : String)

/-- The classes of failures. -/
inductive ErrorKind where
  | validation
  | compile
  | timeout
  | connection
  | store
deriving DecidableEq, Repr

namespace Expected

/-- The wording of an expectation. -/
def wording : Expected → String
  | .kind k => k.name
  | .lengthAtLeast type n => s!"{type} of length >= {n}"
  | .lengthAtMost type n => s!"{type} of length <= {n}"
  | .atLeast type bound => type ++ " >= " ++ bound.text .plain
  | .atMost type bound => type ++ " <= " ++ bound.text .plain
  | .format type => s!"{type} matching the {type} format"
  | .validFormat => "valid format pattern"
  | .nonNull => "non-null value"
  | .presence => "field to be present"
  | .stayingPresent => "required field to stay present"
  | .object => "object"
  | .operatorDocument => "operator document"
  | .fieldAssignments => "object of field assignments"
  | .numericField => "numeric field for $inc"
  | .arrayField operator => "array field for " ++ operator
  | .stringField => "string field for contains"
  | .knownOperator => "one of eq, gt, gte, lt, lte, in, nin, regex, contains, exists"
  | .fieldName => "a field name"
  | .fieldPredicates => "object of field predicates"
  | .patternText => "regex pattern string"
  | .validPattern => "valid regex pattern"
  | .substring => "substring"
  | .listOfValues => "array of values"
  | .plainValue => "plain value"
  | .someDocument => "at least one document"
  | .someField => "at least one field"
  | .oneUpdateForm => "either update operators or plain fields"
  | .clientConfig => "client config JSON"
  | .readableConfig => "readable config file"
  | .positiveInteger => "positive integer"
  | .milliseconds => "integer milliseconds"
  | .atLeastOne => "at least 1"
  | .nonEmptyName => "non-empty name"

end Expected

namespace Found

/-- The wording of what was found. -/
def wording : Found → String
  | .value v => v.describe
  | .length n => s!"length {n}"
  | .missing => "missing"
  | .unset => "$unset"
  | .kind k => k.name
  | .badPattern fault => fault.message
  | .operatorSuffix suffix => s!"unknown operator suffix '{suffix}'"
  | .fieldName name => s!"'{name}'"
  | .operatorKey key => s!"object with operator key {key}"
  | .emptyList => "empty list"
  | .emptyObject => "empty object"
  | .mixedUpdate => "a mix of both"
  | .text s => s

end Found

namespace CompileFault

/-- How messages name a sort: as a stage, or as a part of a query. -/
def sortName (stage : Bool) : String := if stage then "$sort" else "sort"

/-- How messages name a projection: as a stage, or as a part of a query. -/
def projectName (stage : Bool) : String := if stage then "$project" else "projection"

/-- The wording of a compile fault. -/
def wording : CompileFault → String
  | .unnamedSchema => "schema must name its collection"
  | .badFieldName field schema => s!"invalid field name '{field}' in schema '{schema}'"
  | .schemaTaken collection => s!"schema for collection '{collection}' is already registered"
  | .conflictingPredicates field operator =>
    s!"conflicting predicates on field '{field}': operator {operator} given more than once"
  | .accumulatorsNotObject given => "$group accumulators must be an object, got " ++ given.describe
  | .emptyOutputName => "output field name cannot be empty"
  | .reservedOutputName => "'_id' is reserved for the group key"
  | .dottedOutputName name => s!"output field name '{name}' cannot contain '.'"
  | .operatorOutputName name => s!"output field name '{name}' cannot start with '$'"
  | .unknownAccumulator operator name known =>
    s!"unknown accumulator '{operator}' for '{name}'; expected one of " ++ ", ".intercalate known
  | .accumulatorShape name => s!"accumulator for '{name}' must be a single-operator object"
  | .sortEmpty => "$sort requires at least one field"
  | .sortFieldEmpty stage => sortName stage ++ " field name cannot be empty"
  | .sortDirection stage field direction =>
    sortName stage ++ s!" direction for '{field}' must be 1 or -1, got {direction}"
  | .sortFieldTwice stage field => sortName stage ++ s!" field '{field}' appears twice"
  | .limitZero => "$limit must be positive"
  | .lookupEmpty parameter => s!"$lookup '{parameter}' cannot be empty"
  | .unwindUndeclared target => s!"$unwind references '{target}', which no earlier stage declared"
  | .unwindEmpty => "$unwind path cannot be empty"
  | .projectNotObject given => "$project specification must be an object, got " ++ given.describe
  | .projectEmpty => "$project requires at least one field"
  | .projectFieldEmpty stage => projectName stage ++ " field name cannot be empty"
  | .projectValue field given =>
    s!"$project value for '{field}' must be 0, 1 or an expression, got " ++ given.describe
  | .projectMixed stage => projectName stage ++ " cannot mix inclusion and exclusion"

end CompileFault

namespace ErrorKind

/-- The code of a class of failures. -/
def code : ErrorKind → String
  | .validation => "VALIDATION_ERROR"
  | .compile => "COMPILE_ERROR"
  | .timeout => "TIMEOUT_ERROR"
  | .connection => "CONNECTION_ERROR"
  | .store => "STORE_ERROR"

/-- The name of a class of failures in documents. -/
def name : ErrorKind → String
  | .validation => "VALIDATION"
  | .compile => "COMPILE"
  | .timeout => "TIMEOUT"
  | .connection => "CONNECTION"
  | .store => "STORE"

/-- All classes of failures. -/
def all : List ErrorKind := [.validation, .compile, .timeout, .connection, .store]

/-- The class with the given name. -/
def ofName? (s : String) : Option ErrorKind := all.find? fun k => k.name == s

end ErrorKind

namespace Error

/-- The class of a failure. -/
def kind : Error → ErrorKind
  | .validation .. => .validation
  | .compile _ => .compile
  | .timeout _ => .timeout
  | .connection _ => .connection
  | .store _ => .store

/-- Whether the failure was found before the store was called. -/
def isInputError (e : Error) : Bool := e.kind == .validation || e.kind == .compile

/-- The wording of a failure. -/
def message : Error → String
  | .validation field expected actual =>
    s!"Validation error on field '{field}': expected " ++ expected.wording ++ ", got " ++ actual.wording
  | .compile fault => "Compile error: " ++ fault.wording
  | .timeout limit => s!"Operation timed out after {limit}ms"
  | .connection message => "Connection error: " ++ message
  | .store message => message

end Error

/-- A result that can fail. -/
abbrev Result (α : Type) := Except Error α

end DocStore
