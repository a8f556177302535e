import DocStore.Aggregation.Grouping
import DocStore.Aggregation.Join
import DocStore.Aggregation.Projection
import DocStore.Aggregation.Sorting

/-!
# Running a pipeline

The stages of a pipeline are documents with a single field, applied in order.
-/

namespace DocStore.Aggregation

/-- Keeps the first documents. -/
def limit (spec : Json) (docs : List Json) : Except Fault (List Json) :=
  match spec.asNat64? with
  | some 0 => .error .limit
  | some n => .ok (docs.take n)
  | none => .error .limit

/-- Drops the first documents. -/
def skip (spec : Json) (docs : List Json) : Except Fault (List Json) :=
  match spec.asNat64? with
  | some n => .ok (docs.drop n)
  | none => .error .skip

/-- Applies one stage, given the documents of all collections. -/
def runStage (collections : String → List Json) (docs : List Json) (stage : Json) :
    Except Fault (List Json) :=
  match singleField? stage with
  | none => .error .stageShape
  | some (name, spec) =>
    match name with
    | "$match" => select spec docs
    | "$group" => group spec docs
    | "$sort" => sort spec docs
    | "$limit" => limit spec docs
    | "$skip" => skip spec docs
    | "$lookup" => lookup collections spec docs
    | "$unwind" => unwind spec docs
    | "$project" => project spec docs
    | _ => .error (.unknownStage name)

/-- Applies the stages of a pipeline in order. -/
def run (collections : String → List Json) (stages docs : List Json) :
    Except Fault (List Json) :=
  stages.foldlM (runStage collections) docs

end DocStore.Aggregation
