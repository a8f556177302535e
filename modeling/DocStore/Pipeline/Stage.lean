import DocStore.Json

/-!
# Stages of a pipeline

A stage whose content was checked, and its form as a document.
-/

namespace DocStore

/-- One stage of an aggregation pipeline. -/
inductive Stage where
  | select (query : Json)
  | group (key : Json) (accumulators : Fields)
  | sort (keys : List (String × Int))
  | limit (n : Nat)
  | skip (n : Nat)
  | lookup (source localField foreignField target : String)
  /-- The path is without its leading dollar sign. -/
  | unwind (path : String)
  | project (fields : Fields)

namespace Stage

/-- The accumulators that a group can use. -/
def accumulators : List String :=
  ["$sum", "$avg", "$min", "$max", "$stdDevPop", "$stdDevSamp", "$addToSet", "$push", "$first",
    "$last", "$count"]

/-- The name of a stage in documents. -/
def name : Stage → String
  | .select _ => "$match"
  | .group .. => "$group"
  | .sort _ => "$sort"
  | .limit _ => "$limit"
  | .skip _ => "$skip"
  | .lookup .. => "$lookup"
  | .unwind _ => "$unwind"
  | .project _ => "$project"

/-- What a stage says under its name. -/
def body : Stage → Json
  | .select query => query
  | .group key accumulators =>
    .obj (accumulators.foldl (fun fs (name, acc) => Fields.insert name acc fs) [("_id", key)])
  | .sort keys => .obj (Fields.ofList (keys.map fun (field, direction) => (field, .int direction)))
  | .limit n => .nat n
  | .skip n => .nat n
  | .lookup source localField foreignField target =>
    .obj [("from", .str source), ("localField", .str localField),
      ("foreignField", .str foreignField), ("as", .str target)]
  | .unwind path => .str ("$" ++ path)
  | .project fields => .obj fields

/-- The document of a stage. -/
def toJson (s : Stage) : Json := .obj [(s.name, s.body)]

end Stage

end DocStore
