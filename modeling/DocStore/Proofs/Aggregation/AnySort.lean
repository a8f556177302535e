import DocStore.Aggregation.Stages
import DocStore.Proofs.Aggregation.Running
import DocStore.Proofs.Aggregation.StableSort

/-!
# Sorting by whatever stable sort

A sort by comparisons is only bound to sort what the comparisons put into a total preorder: given
anything else it may fail, or leave the items in whatever order (`Sorter`). The stages of a pipeline
are run with any such sort (`Sorter.run`). As long as each stage that sorts is given documents that its
fields put into a total preorder (`Sortable`), the run comes to an end, and to the same one as with the
sort by insertion (`Sorter.run_eq`).
-/

namespace DocStore.Aggregation

/-- A sort by comparisons. It sorts stably if they are those of a total preorder of the items, and has
no result at all, or any, if they are not. -/
structure Sorter where
  sort : (Json → Json → Ordering) → List Json → Option (List Json)
  stably : ∀ cmp docs, (Std.TransCmp fun a b : {d // d ∈ docs} => cmp a b) →
    ∃ sorted, sort cmp docs = some sorted ∧ SortedStably cmp docs sorted

/-- The sort by insertion, which gives a result for all comparisons. -/
def Sorter.insertion : Sorter where
  sort cmp docs := some (sortBy (cmp · · == .lt) docs)
  stably _ _ preorder := ⟨_, rfl, sortBy_stably_of_mem preorder⟩

namespace Sorter

variable (sorter : Sorter) (collections : String → List Json)

/-- Sorts documents by a specification. -/
def sortDocuments (spec : Json) (docs : List Json) : Option (Except Fault (List Json)) :=
  match spec with
  | .obj fs =>
    match fs.mapM fun f => SortKey.ofField f.1 f.2 with
    | .ok keys => (sorter.sort (orderBy keys) docs).map .ok
    | .error e => some (.error e)
  | _ => some (.error .sortNotObject)

/-- Applies one stage, given the documents of all collections. -/
def runStage (docs : List Json) (stage : Json) : Option (Except Fault (List Json)) :=
  match singleField? stage with
  | some ("$sort", spec) => sorter.sortDocuments spec docs
  | _ => some (Aggregation.runStage collections docs stage)

/-- Applies the stages of a pipeline in order. -/
def run : List Json → List Json → Option (Except Fault (List Json))
  | [], docs => some (.ok docs)
  | stage :: stages, docs =>
    match sorter.runStage collections docs stage with
    | some (.ok out) => run stages out
    | some (.error e) => some (.error e)
    | none => none

end Sorter

/-! ## Documents that can be sorted -/

/-- A stage does not sort, or sorts by fields that put the documents into a total preorder. -/
def Sortable (stage : Json) (docs : List Json) : Prop :=
  ∀ fs keys, singleField? stage = some ("$sort", .obj fs) →
    (fs.mapM fun f => SortKey.ofField f.1 f.2) = .ok keys →
    Std.TransCmp fun a b : {d // d ∈ docs} => orderBy keys a b

/-- Each stage is given documents that it can sort. -/
def AllSortable (collections : String → List Json) : List Json → List Json → Prop
  | [], _ => True
  | stage :: stages, docs => Sortable stage docs ∧
    ∀ out, runStage collections docs stage = .ok out → AllSortable collections stages out

variable {collections : String → List Json} {docs : List Json} {stage : Json}

theorem sortable_of_ne {name : String} (spec : Json) (other : name ≠ "$sort") :
    Sortable (.single name spec) docs := by
  rintro fs keys ⟨⟩
  exact absurd rfl other

/-- Documents whose numbers are not blurred can be sorted by any fields. -/
theorem sortable_of_numbersIn {P : Number → Prop} (sharp : Number.Unblurred P)
    (numbers : ∀ d ∈ docs, d.NumbersIn P) (stage : Json) : Sortable stage docs :=
  fun _ keys _ _ => transCmp_orderBy_of_mem sharp numbers keys

/-! ## Runs -/

namespace Sorter

variable (sorter : Sorter)

/-- Whatever sorts documents in a total preorder does so as the sort by insertion. -/
theorem sort_eq {keys : List SortKey}
    (preorder : Std.TransCmp fun a b : {d // d ∈ docs} => orderBy keys a b) :
    sorter.sort (orderBy keys) docs = some (sortBy (orderBy keys · · == .lt) docs) := by
  obtain ⟨sorted, done, stably⟩ := sorter.stably (orderBy keys) docs preorder
  rw [done, stably.unique (sortBy_stably_of_mem preorder)]

theorem runStage_eq (sortable : Sortable stage docs) :
    sorter.runStage collections docs stage = some (Aggregation.runStage collections docs stage) := by
  unfold runStage
  split
  · rename_i spec single
    rw [Aggregation.runStage, single]
    cases spec with
    | obj fs =>
      change sorter.sortDocuments (.obj fs) docs =
        some ((fs.mapM fun f => SortKey.ofField f.1 f.2) >>= _)
      unfold sortDocuments
      dsimp only
      cases read : fs.mapM fun f => SortKey.ofField f.1 f.2 with
      | error e => rfl
      | ok keys =>
        dsimp only
        rw [sorter.sort_eq (sortable fs keys single read)]
        rfl
    | _ => rfl
  · rfl

/-- **A run with any sort is the run with the sort by insertion**, as long as its stages are given
documents that they can sort. -/
theorem run_eq {stages : List Json} (sortable : AllSortable collections stages docs) :
    sorter.run collections stages docs = some (Aggregation.run collections stages docs) := by
  induction stages generalizing docs with
  | nil => rfl
  | cons stage stages ih =>
    rw [run, sorter.runStage_eq sortable.1, run_cons]
    cases ran : Aggregation.runStage collections docs stage with
    | error e => rfl
    | ok out => exact ih (sortable.2 out ran)

end Sorter

end DocStore.Aggregation
