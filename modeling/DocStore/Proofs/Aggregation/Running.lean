import DocStore.Aggregation.Stages
import DocStore.Filter.Query
import DocStore.Proofs.Json.Decoding

/-!
# Running stages

A pipeline runs stage by stage, and the documents of its stages are read back as what was written.
-/

namespace DocStore

/-- A path that is marked with a dollar sign. -/
theorem Text.toList_marked (path : String) : ("$" ++ path).toList = '$' :: path.toList := by
  rw [String.toList_append]
  rfl

namespace Aggregation

variable {collections : String → List Json} {docs : List Json}

theorem run_cons (stage : Json) (stages : List Json) :
    run collections (stage :: stages) docs =
      runStage collections docs stage >>= run collections stages := rfl

/-- The stages after some others run on what those made. -/
theorem run_append (before after : List Json) :
    run collections (before ++ after) docs =
      run collections before docs >>= run collections after := by
  rw [run, List.foldlM_append]
  rfl

theorem run_singleton (stage : Json) :
    run collections [stage] docs = runStage collections docs stage := by
  rw [run_cons]
  cases runStage collections docs stage <;> rfl

theorem runStage_skip {n : Nat} (fits : FitsNat64 n) :
    runStage collections docs (.single "$skip" (.nat n)) = .ok (docs.drop n) := by
  simp only [runStage, Json.single, singleField?, skip, Json.asNat64?_nat fits]

/-- A limit that is not zero keeps as many documents. -/
theorem runStage_limit {n : Nat} (positive : 0 < n) (fits : FitsNat64 n) :
    runStage collections docs (.single "$limit" (.nat n)) = .ok (docs.take n) := by
  simp only [runStage, Json.single, singleField?, limit, Json.asNat64?_nat fits]
  cases n with
  | zero => cases positive
  | succ n => rfl

end Aggregation

end DocStore
