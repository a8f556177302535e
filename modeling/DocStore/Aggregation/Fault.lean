import DocStore.Query.Match

/-!
# Faults of aggregation

Why the stages of a pipeline, or the sort and the projection of a query, cannot be applied.
-/

namespace DocStore.Aggregation

/-- Why documents cannot be aggregated. -/
inductive Fault where
  | stageShape
  | unknownStage (name : String)
  | query (fault : Query.Fault)
  | groupNotObject
  | groupWithoutKey
  | accumulatorShape (output : String)
  | unknownAccumulator (operator : String)
  | sortNotObject
  | sortDirection (field : String)
  | limit
  | skip
  | projectNotObject
  | projectMixed
  | missingParameter (stage parameter : String)
  | unwindShape
  | unwindPath (path : String)
  | pathBlocked (path : String)

/-- The wording of a fault. -/
def Fault.message : Fault → String
  | .stageShape => "A pipeline stage specification object must contain exactly one field"
  | .unknownStage name => s!"Unrecognized pipeline stage name: '{name}'"
  | .query fault => fault.message
  | .groupNotObject => "a group specification must be an object"
  | .groupWithoutKey => "a group specification must include an _id"
  | .accumulatorShape output => s!"The field '{output}' must be an accumulator object"
  | .unknownAccumulator operator => s!"unknown group operator '{operator}'"
  | .sortNotObject => "$sort specification must be an object"
  | .sortDirection field => s!"$sort key ordering for '{field}' must be 1 or -1"
  | .limit => "the limit must be positive"
  | .skip => "the skip must be a non-negative number"
  | .projectNotObject => "$project specification must be an object"
  | .projectMixed => "Cannot mix inclusion and exclusion in a projection"
  | .missingParameter stage parameter => stage ++ s!" requires a string '{parameter}'"
  | .unwindShape => "$unwind expects a path string or an object"
  | .unwindPath path => s!"$unwind path '{path}' must be prefixed with '$'"
  | .pathBlocked path => Path.blockedMessage path

/-- The documents that satisfy a query. -/
def select (query : Json) (docs : List Json) : Except Fault (List Json) :=
  match Query.select query docs with
  | .ok kept => .ok kept
  | .error fault => .error (.query fault)

/-- Writes a value at a path of a document. -/
def write (doc : Json) (path : String) (value : Json) : Except Fault Json :=
  doc.writePath .pathBlocked path value

/-- The operator and the operand of an object with a single field. -/
def singleField? : Json → Option (String × Json)
  | .obj [field] => some field
  | _ => none

end DocStore.Aggregation
