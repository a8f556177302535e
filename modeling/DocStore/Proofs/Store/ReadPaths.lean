import DocStore.Proofs.Aggregation.Running
import DocStore.Store.Execute

/-!
# Finding is aggregating

A query is carried out in one pass over the collection, and a pipeline stage by stage. The stages of
a query (`FindQuery.stages`) give what the query finds, or fail with the same error
(`Store.find_eq_aggregate`).
-/

namespace DocStore

namespace FindQuery

/-- The stages of a pipeline that does what a query asks for, in the order of a query. -/
def stages (q : FindQuery) : List Json :=
  [.single "$match" q.filter] ++ (q.sort.map (.single "$sort" ·)).toList ++
    (.single "$skip" (.nat q.skip) :: (q.limit.map fun n => .single "$limit" (.nat n)).toList) ++
    (q.projection.map (.single "$project" ·)).toList

/-- The numbers of a query fit 64 bits, and its limit is positive. -/
structure Paged (q : FindQuery) : Prop where
  skip : FitsNat64 q.skip
  limit : ∀ n, q.limit = some n → 0 < n ∧ FitsNat64 n

end FindQuery

namespace Store

open Aggregation (run_cons run_append run_singleton runStage_skip runStage_limit)

theorem refuse_bind {α β : Type} (x : Except Aggregation.Fault α)
    (f : α → Except Aggregation.Fault β) :
    refuse (x >>= f) = refuse x >>= fun a => refuse (f a) := by
  cases x <;> rfl

section

variable {collections : String → List Json} {docs : List Json}

theorem refuse_run_sort (sort : Option Json) :
    refuse (Aggregation.run collections (sort.map (.single "$sort" ·)).toList docs) =
      match sort with
      | some spec => refuse (Aggregation.sort spec docs)
      | none => .ok docs := by
  cases sort with
  | none => rfl
  | some spec => exact congrArg refuse (run_singleton _)

/-- Skipping and limiting cut the documents to a page. -/
theorem run_page {q : FindQuery} (paged : q.Paged) :
    Aggregation.run collections (.single "$skip" (.nat q.skip) ::
        (q.limit.map fun n => .single "$limit" (.nat n)).toList) docs =
      .ok (truncate q.limit (docs.drop q.skip)) := by
  rw [run_cons, runStage_skip paged.skip]
  change Aggregation.run collections _ (docs.drop q.skip) = _
  cases limit : q.limit with
  | none => rfl
  | some n =>
    obtain ⟨positive, fits⟩ := paged.limit n limit
    refine (run_singleton _).trans ((runStage_limit positive fits).trans ?_)
    cases n with
    | zero => cases positive
    | succ n => rfl

theorem refuse_run_project {projection : Option Json} :
    (∀ spec, projection = some spec → spec.isObject = true) →
    refuse (Aggregation.run collections (projection.map (.single "$project" ·)).toList docs) =
      match projection with
      | none => .ok docs
      | some (.obj spec) => refuse (Aggregation.project (.obj spec) docs)
      | some _ => .error .projectionNotObject := by
  intro object
  cases projection with
  | none => rfl
  | some spec =>
    cases spec with
    | obj fs => exact congrArg refuse (run_singleton _)
    | _ => cases object _ rfl

end

variable {s : Store} {collection : String} {q : FindQuery}

/-- What a query does with the documents that it selects, its other stages do. -/
theorem find_of_select {docs : List Json} (paged : q.Paged)
    (object : ∀ spec, q.projection = some spec → spec.isObject = true)
    (selected : Query.select q.filter (s.documents collection) = .ok docs) :
    s.find collection q = s.aggregate collection q.stages := by
  have matched : Aggregation.run s.documents [.single "$match" q.filter]
      (s.documents collection) = .ok docs := by
    rw [run_singleton]
    change Aggregation.select _ _ = _
    rw [Aggregation.select, selected]
  simp only [find, select, selected, aggregate, FindQuery.stages, run_append, matched, refuse_bind,
    run_page paged, refuse_run_sort, refuse_run_project object]
  cases q.sort with
  | none => rfl
  | some spec =>
    change (refuse (Aggregation.sort spec docs) >>= _) =
      (refuse (Aggregation.sort spec docs) >>= _) >>= _
    cases refuse (Aggregation.sort spec docs) <;> rfl

/-- A filter that cannot be evaluated on a document fails the query and the pipeline alike. -/
theorem find_of_fault {fault : Query.Fault}
    (failed : Query.select q.filter (s.documents collection) = .error fault) :
    s.find collection q = .error (.query fault) ∧
      s.aggregate collection q.stages = .error (.aggregation (.query fault)) := by
  constructor
  · simp only [find, select, failed]
    rfl
  · have stopped : Aggregation.run s.documents [.single "$match" q.filter]
        (s.documents collection) = .error (.query fault) := by
      rw [run_singleton]
      change Aggregation.select _ _ = _
      rw [Aggregation.select, failed]
    simp only [aggregate, FindQuery.stages, run_append, stopped]
    rfl

/-- **A query finds what its stages give**, or fails with the same error. -/
theorem find_eq_aggregate (s : Store) (collection : String) (q : FindQuery) (paged : q.Paged)
    (object : ∀ spec, q.projection = some spec → spec.isObject = true) :
    (s.find collection q).mapError Refusal.toError =
      (s.aggregate collection q.stages).mapError Refusal.toError := by
  cases selected : Query.select q.filter (s.documents collection) with
  | ok docs => rw [find_of_select paged object selected]
  | error fault =>
    obtain ⟨found, aggregated⟩ := find_of_fault selected
    rw [found, aggregated]
    rfl

/-- The second of three documents from the greatest down, with one of its fields. -/
theorem find_eq_aggregate_page :
    ∃ s : Store, ∃ q : FindQuery, q.sort.isSome = true ∧ q.limit = some 1 ∧
      (s.find "c" q).mapError Refusal.toError = .ok [.obj [("n", .int 2)]] ∧
      (s.aggregate "c" q.stages).mapError Refusal.toError = .ok [.obj [("n", .int 2)]] := by
  let s : Store :=
    { collections := [("c", [1, 3, 2].map fun n => .obj [("_id", .int n), ("n", .int n)])] }
  let q : FindQuery :=
    { filter := .obj []
      sort := some (.obj [("n", .int (-1))])
      skip := 1
      limit := some 1
      projection := some (.obj [("_id", .bool false), ("n", .bool true)]) }
  have found : (s.find "c" q).mapError Refusal.toError = .ok [.obj [("n", .int 2)]] := rfl
  have same := find_eq_aggregate s "c" q ⟨by decide, by simp [q]⟩ (by simp [q, Json.isObject])
  exact ⟨s, q, rfl, rfl, found, same.symm.trans found⟩

end Store

end DocStore
