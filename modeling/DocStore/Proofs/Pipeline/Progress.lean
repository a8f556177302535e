import DocStore.Proofs.Aggregation.AnySort
import DocStore.Proofs.Filter.Agreement
import DocStore.Proofs.Pipeline.Origins
import DocStore.Proofs.Pipeline.Scope

/-!
# Accepted pipelines run

The stages of a pipeline that the builder accepted are well-formed for the store, so that it runs to
its end or stops at a write: `$unwind` writes each item over its array, which can lie in another
array, and an including `$project` writes a field below one that it wrote before (`Pipeline.Stops`).
Nothing else stops it, and no write is blocked where no path leads into an array or below an earlier
field (`Stage.Clear`). All this is proved of a run that sorts with whatever stable sort, on documents
that its sorting stages put into a total preorder (`Pipeline.Built.run_outcome`); what a run does that
stops at a projection is left open there.
-/

namespace DocStore

open Fallible (bind_eq_ok mapM_eq_ok)
open Aggregation (run runStage UnwindSpec GroupSpec includes projectDocument AllSortable Sorter)
open Query (Reaches)

/-- A filter whose query is answered on every document: the fields of its trees do not look like
operators, and its substrings can be searched for. -/
def Filter.Answerable (f : Filter) : Prop := f.Plain ∧ ∀ p, f.Mentions p → p.Searchable

/-- A written path lies below another one. -/
def Path.Below (inner outer : String) : Prop :=
  ofString outer <+: ofString inner ∧ ofString outer ≠ ofString inner

instance (inner outer : String) : Decidable (Path.Below inner outer) :=
  inferInstanceAs (Decidable (_ ∧ _))

namespace Stage

/-- A stage has to write at a path of a document and cannot. -/
def Blocks : Stage → Json → String → Prop
  | .unwind field, doc, path => path = field ∧
    (∃ x xs, doc.getPath? field = some (.arr (x :: xs))) ∧ doc.Obstructs (.ofString field)
  | .project fields, doc, path => includes fields = true ∧ Aggregation.IncludeStops fields doc path
  | _, _, _ => False

/-- No write of a stage can be blocked: an unwound path never takes an item of an array, and no
field of an including projection lies below an earlier one or below the identifier. -/
def Clear : Stage → Prop
  | .unwind path => ∀ segment ∈ (Path.ofString path).tail, Json.indexOf? segment = none
  | .project fields => includes fields = true →
    ("_id" :: Fields.keys fields).Pairwise fun outer inner => ¬ Path.Below inner outer
  | _ => True

instance (s : Stage) : Decidable s.Clear :=
  match s with
  | .unwind _ => inferInstanceAs (Decidable (∀ _ ∈ _, _))
  | .project _ => inferInstanceAs (Decidable (_ → _))
  | .select _ | .group .. | .sort _ | .limit _ | .skip _ | .lookup .. => .isTrue trivial

end Stage

/-- The run of some stages comes to a document that one of them has to write to and cannot. -/
inductive Pipeline.Stops (collections : String → List Json) :
    List Stage → List Json → Stage → String → Prop where
  | here {s : Stage} {stages : List Stage} {docs : List Json} {path : String} :
    Reaches (fun d => ∀ other, ¬ s.Blocks d other) (fun d => s.Blocks d path) docs →
    Stops collections (s :: stages) docs s path
  | later {s blocked : Stage} {stages : List Stage} {docs out : List Json} {path : String} :
    runStage collections docs s.toJson = .ok out → Stops collections stages out blocked path →
    Stops collections (s :: stages) docs blocked path

/-! ## One stage -/

namespace Aggregation

variable {docs : List Json} {e : Fault}

/-- Documents worked off one after another are blocked where the first of them is. -/
theorem mapM_eq_blocked {β : Type} {f : Json → Except Fault β} {B : Json → String → Prop}
    (each : ∀ d e, f d = .error e ↔ ∃ path, e = .pathBlocked path ∧ B d path) :
    docs.mapM f = .error e ↔ ∃ path, e = .pathBlocked path ∧
      Reaches (fun d => ∀ other, ¬ B d other) (fun d => B d path) docs := by
  have passes (d : Json) : (∃ y, f d = .ok y) ↔ ∀ path, ¬ B d path := by
    constructor
    · rintro ⟨y, fine⟩ path blocked
      have fails := (each d _).2 ⟨path, rfl, blocked⟩
      rw [fine] at fails
      cases fails
    · intro free
      cases result : f d with
      | ok y => exact ⟨y, rfl⟩
      | error e' =>
        obtain ⟨path, -, blocked⟩ := (each d e').1 result
        exact absurd blocked (free path)
  rw [Fallible.mapM_eq_error]
  constructor
  · rintro ⟨before, d, after, split, fine, fails⟩
    obtain ⟨path, same, blocked⟩ := (each d e).1 fails
    exact ⟨path, same, before, d, after, split, fun y hy => (passes y).1 (fine y hy), blocked⟩
  · rintro ⟨path, same, before, d, after, split, free, blocked⟩
    exact ⟨before, d, after, split, fun y hy => (passes y).2 (free y hy),
      (each d e).2 ⟨path, same, blocked⟩⟩

theorem unwindDocuments_eq_error {path : String} {d : Json} :
    UnwindSpec.documents ⟨path, false⟩ d = .error e ↔ e = .pathBlocked path ∧
      (∃ x xs, d.getPath? path = some (.arr (x :: xs))) ∧ d.Obstructs (.ofString path) := by
  unfold UnwindSpec.documents
  simp only [Bool.false_eq_true, ↓reduceIte]
  split
  · simp_all
  · rename_i xs filled there
    cases xs with
    | nil => exact absurd rfl filled
    | cons x xs =>
      rw [there, Fallible.mapM_eq_error]
      constructor
      · rintro ⟨_, item, _, -, -, fails⟩
        obtain ⟨rfl, blocked⟩ := write_eq_error.1 fails
        exact ⟨rfl, ⟨x, xs, rfl⟩, blocked⟩
      · rintro ⟨rfl, -, blocked⟩
        exact ⟨[], x, xs, rfl, by simp, write_eq_error.2 ⟨rfl, blocked⟩⟩
  all_goals simp_all

/-- Documents are selected if the query has an answer on each. -/
theorem exists_select {query : Json} (answered : ∀ d, ∃ b, Query.selects d query = .ok b) :
    ∃ out, select query docs = .ok out := by
  have selected : ∃ out, Query.select query docs = .ok out := by
    induction docs with
    | nil => exact ⟨[], rfl⟩
    | cons d docs ih =>
      obtain ⟨b, here⟩ := answered d
      obtain ⟨rest, there⟩ := ih
      exact ⟨_, bind_eq_ok.2 ⟨b, here, bind_eq_ok.2 ⟨rest, there, rfl⟩⟩⟩
  obtain ⟨out, selected⟩ := selected
  exact ⟨out, by rw [select, selected]⟩

theorem exists_accumulator {name : String} {spec : Json}
    (checked : Pipeline.checkAccumulator name spec = .ok ()) :
    ∃ operator operand, spec = .obj [(operator, operand)] ∧
      (Accumulator.ofName? operator).isSome := by
  have known : ∀ operator ∈ Stage.accumulators, (Accumulator.ofName? operator).isSome := by decide
  unfold Pipeline.checkAccumulator at checked
  split at checked
  · rename_i operator operand
    split at checked
    · rename_i listed
      exact ⟨operator, operand, rfl, known operator (by simpa using listed)⟩
    · cases checked
  · cases checked

/-- Checked accumulators can be read. -/
theorem exists_groupSpec {key : Json} {accumulators : Fields}
    (checked : ∀ acc ∈ accumulators, Pipeline.checkAccumulator acc.1 acc.2 = .ok ()) :
    ∃ spec, GroupSpec.ofJson (Stage.group key accumulators).body = .ok spec := by
  change ∃ spec, GroupSpec.ofJson
    (.obj (accumulators.foldl (fun fs f => Fields.insert f.1 f.2 fs) [("_id", key)])) = .ok spec
  generalize written : accumulators.foldl (fun fs f => Fields.insert f.1 f.2 fs) [("_id", key)] = fs
  refine exists_groupSpec_iff.2 ⟨?_, fun f hf other => ?_⟩
  · rw [Fields.isSome_get?_iff, ← written]
    exact Fields.mem_keys_foldl_insert.2 (.inl (by simp [Fields.keys]))
  · rcases Fields.mem_foldl_insert (written ▸ hf) with start | given
    · simp_all
    · exact exists_accumulator (checked f given)

theorem exists_sort {keys : List (String × Int)} (directions : ∀ k ∈ keys, k.2 = 1 ∨ k.2 = -1) :
    ∃ out, sort (Stage.sort keys).body docs = .ok out := by
  change ∃ out, (Fields.ofList (keys.map fun k => (k.1, .int k.2))).mapM
    (fun f => SortKey.ofField f.1 f.2) >>= _ = .ok out
  have readable : ∀ f ∈ Fields.ofList (keys.map fun k => (k.1, Json.int k.2)),
      ∃ k, SortKey.ofField f.1 f.2 = .ok k := by
    intro f hf
    obtain given := (Fields.mem_foldl_insert hf).resolve_left (by simp)
    obtain ⟨⟨field, direction⟩, hk, rfl⟩ := List.mem_map.1 given
    rcases directions _ hk with rfl | rfl
    · exact ⟨⟨field, false⟩, rfl⟩
    · exact ⟨⟨field, true⟩, rfl⟩
  obtain ⟨order, horder⟩ := Fallible.exists_mapM readable
  exact ⟨_, bind_eq_ok.2 ⟨order, horder, rfl⟩⟩

/-- At a name without dots anything can be written into an object. -/
theorem exists_write {d : Json} (object : d.isObject = true) {name : String}
    (plain : '.' ∉ name.toList) (value : Json) : ∃ out, write d name value = .ok out := by
  obtain ⟨fs, rfl⟩ := Json.exists_fields object
  exact ⟨_, write_obj plain fs value⟩

end Aggregation

namespace Stage

variable {collections : String → List Json} {docs : List Json} {s : Stage}
  {scope scope' : List String}

/-- A stage that cannot be blocked and gives a result gives no error. -/
theorem error_iff_of_ok {e : Aggregation.Fault} (free : ∀ d path, ¬ s.Blocks d path)
    (fine : ∃ out, runStage collections docs s.toJson = .ok out) :
    runStage collections docs s.toJson = .error e ↔ ∃ path, e = .pathBlocked path ∧
      Reaches (fun d => ∀ other, ¬ s.Blocks d other) (fun d => s.Blocks d path) docs := by
  obtain ⟨out, fine⟩ := fine
  constructor
  · intro fails
    rw [fine] at fails
    cases fails
  · rintro ⟨path, -, before, d, after, -, -, blocked⟩
    exact absurd blocked (free d path)

/-- **A stage that the builder checked fails only where a write is blocked.** -/
theorem Enters.runStage_eq_error (entered : s.Enters Filter.Answerable scope scope')
    (objects : ∀ d ∈ docs, d.isObject = true) {e : Aggregation.Fault} :
    runStage collections docs s.toJson = .error e ↔ ∃ path, e = .pathBlocked path ∧
      Reaches (fun d => ∀ other, ¬ s.Blocks d other) (fun d => s.Blocks d path) docs := by
  cases entered with
  | select answerable compiled =>
    obtain ⟨plain, fits⟩ := answerable
    refine error_iff_of_ok (fun _ _ => id) (Aggregation.exists_select fun d => ?_)
    have outcome := plain.decides_toQuery d compiled
    obtain ⟨b, selects, -⟩ := outcome.exists_ok fun stalls => by
      obtain ⟨p, mention, large⟩ := stalls.exists_mention
      exact large (fits p mention)
    exact ⟨b, selects⟩
  | group checked =>
    obtain ⟨spec, read⟩ := Aggregation.exists_groupSpec fun acc member => (checked acc member).2
    exact error_iff_of_ok (fun _ _ => id) ⟨_, bind_eq_ok.2 ⟨spec, read, rfl⟩⟩
  | sort directions => exact error_iff_of_ok (fun _ _ => id) (Aggregation.exists_sort directions)
  | limit positive fits =>
    exact error_iff_of_ok (fun _ _ => id) ⟨_, Aggregation.runStage_limit positive fits⟩
  | skip fits => exact error_iff_of_ok (fun _ _ => id) ⟨_, Aggregation.runStage_skip fits⟩
  | lookup named =>
    refine error_iff_of_ok (fun _ _ => id) ?_
    rw [runStage_lookup]
    exact Fallible.exists_mapM fun d hd => Aggregation.exists_write (objects d hd) named.plain _
  | @unwind path =>
    rw [runStage_unwind, Fallible.map_eq_error]
    refine Aggregation.mapM_eq_blocked fun d e => Aggregation.unwindDocuments_eq_error.trans ?_
    exact ⟨fun ⟨same, array, blocked⟩ => ⟨path, same, rfl, array, blocked⟩,
      fun ⟨_, same, rfl, array, blocked⟩ => ⟨same, array, blocked⟩⟩
  | project unmixed _ =>
    rw [runStage_project]
    exact Aggregation.mapM_eq_blocked fun d e => Aggregation.projectDocument_eq_error unmixed

/-! ## Writes that are never blocked -/

/-- Nothing is in the way of a value that is read without taking items of arrays. -/
theorem not_obstructs_of_getSegments? {v w : Json} {path : Path}
    (there : v.getSegments? path = some w)
    (keyed : ∀ segment ∈ path, Json.indexOf? segment = none) : ¬ v.Obstructs path := by
  induction path generalizing v with
  | nil => exact Json.not_obstructs_nil v
  | cons segment rest ih =>
    obtain ⟨below, here, there⟩ := Option.bind_eq_some_iff.1 there
    obtain ⟨first, others⟩ := List.forall_mem_cons.1 keyed
    rw [Json.obstructs_cons]
    rintro (blocked | ⟨below', here', blocked⟩)
    · cases v with
      | obj fs => cases blocked
      | arr xs => simp [Json.child?, first] at here
      | _ => cases here
    · cases here.symm.trans here'
      exact ih there others blocked

/-- What is no object in the document that an including projection builds was written at one of its
fields. -/
theorem exists_written {spec before : Fields} {doc out : Json}
    (h : before.foldlM (fun out (field, v) => Aggregation.includeField doc out field v)
      (.obj (Aggregation.keptId spec doc)) = .ok out) {place : Path} {w : Json}
    (there : out.getSegments? place = some w) (blocked : w.isObject = false) :
    ∃ name ∈ "_id" :: Fields.keys before, Path.ofString name <+: place := by
  have identifier : Path.ofString "_id" = ["_id"] := Path.ofString_eq_singleton.2 ⟨rfl, by decide⟩
  refine Fallible.foldlM_invariant (P := fun out => ∀ place w, out.getSegments? place = some w →
    w.isObject = false → ∃ name ∈ "_id" :: Fields.keys before, Path.ofString name <+: place)
    h ?_ ?_ place w there blocked
  · intro place w there blocked
    cases place with
    | nil =>
      cases there
      cases blocked
    | cons segment rest =>
      obtain ⟨below, here, -⟩ := Option.bind_eq_some_iff.1 there
      refine ⟨"_id", by simp, ?_⟩
      rcases Aggregation.keptId_cases spec doc with none | ⟨id, one⟩
      · rw [none] at here
        cases here
      · rw [one, Json.child?, Fields.get?_cons] at here
        split at here
        · rename_i same
          rw [identifier, same]
          exact List.prefix_append ["_id"] rest
        · cases here
  · rintro ⟨field, v⟩ member d d' earlier step place w there blocked
    replace step := (Aggregation.includeField_eq ..).symm.trans step
    split at step
    · rcases Json.getSegments?_of_setSegments? (Aggregation.write_eq_ok.1 step) there blocked with
        inside | old
      · exact ⟨field, List.mem_cons_of_mem _ (List.mem_map.2 ⟨_, member, rfl⟩), inside⟩
      · exact earlier place w old blocked
    · cases step
      exact earlier place w there blocked

/-- A stage whose paths are clear is not blocked on any object. -/
theorem Clear.not_blocks (clear : s.Clear) {doc : Json} (object : doc.isObject = true)
    (path : String) : ¬ s.Blocks doc path := by
  cases s with
  | unwind field =>
    rintro ⟨-, ⟨x, xs, there⟩, blocked⟩
    obtain ⟨root, rest, split⟩ := Path.exists_cons field
    rw [Json.getPath?, split] at there
    rw [split, Json.obstructs_cons] at blocked
    obtain ⟨below, here, there⟩ := Option.bind_eq_some_iff.1 there
    rcases blocked with blocked | ⟨below', here', blocked⟩
    · simp [object] at blocked
    · cases here.symm.trans here'
      exact not_obstructs_of_getSegments? there (by simpa [Clear, split] using clear) blocked
  | project fields =>
    rintro ⟨including, before, v, after, out, value, split, soFar, -, obstructed⟩
    obtain ⟨outer, inner, w, cut, more, there, blocked⟩ := obstructed
    obtain ⟨name, member, above⟩ := exists_written soFar there blocked
    have apart := clear including
    rw [split, Fields.keys, List.map_append, ← List.cons_append, List.pairwise_append] at apart
    refine apart.2.2 name member path (by simp) ⟨?_, fun same => ?_⟩
    · exact cut ▸ above.trans (List.prefix_append outer inner)
    · have shorter := above.length_le
      have filled := List.length_pos_iff.2 more
      rw [same, cut, List.length_append] at shorter
      omega
  | _ => exact id

end Stage

/-! ## All stages -/

namespace Pipeline

section

variable {collections : String → List Json} {docs : List Json}

theorem run_toJson_cons (s : Stage) (stages : List Stage) :
    run collections ((s :: stages).map Stage.toJson) docs =
      runStage collections docs s.toJson >>= run collections (stages.map Stage.toJson) := rfl

/-- Checked stages fail only where a write is blocked. -/
theorem run_eq_error {stages : List Stage}
    (checked : ∀ s ∈ stages, ∃ before after, s.Enters Filter.Answerable before after)
    (objects : ∀ d ∈ docs, d.isObject = true) {e : Aggregation.Fault} :
    run collections (stages.map Stage.toJson) docs = .error e ↔
      ∃ path, e = .pathBlocked path ∧ ∃ s, Stops collections stages docs s path := by
  induction stages generalizing docs with
  | nil =>
    constructor
    · rintro ⟨⟩
    · rintro ⟨path, -, s, ⟨⟩⟩
  | cons s stages ih =>
    obtain ⟨⟨before, after, entered⟩, others⟩ := List.forall_mem_cons.1 checked
    have step (e' : Aggregation.Fault) : runStage collections docs s.toJson = .error e' ↔ _ :=
      entered.runStage_eq_error objects
    rw [run_toJson_cons]
    cases ran : runStage collections docs s.toJson with
    | error e' =>
      obtain ⟨path', rfl, blocked⟩ := (step e').1 ran
      constructor
      · rintro ⟨⟩
        exact ⟨path', rfl, s, .here blocked⟩
      · rintro ⟨path, rfl, s', stops⟩
        cases stops with
        | here reached => exact ran.symm.trans ((step _).2 ⟨path, rfl, reached⟩)
        | later ran' _ => cases ran.symm.trans ran'
    | ok out =>
      change run collections (stages.map Stage.toJson) out = .error e ↔ _
      rw [ih others (Stage.isObject_of_runStage ran objects)]
      refine exists_congr fun path => and_congr_right fun _ => exists_congr fun s' =>
        ⟨.later ran, fun stops => ?_⟩
      cases stops with
      | here reached => cases ran.symm.trans ((step _).2 ⟨path, rfl, reached⟩)
      | later ran' stops =>
        cases ran.symm.trans ran'
        exact stops

/-- Clear stages are never blocked. -/
theorem not_stops_of_clear {stages : List Stage} (clear : ∀ s ∈ stages, s.Clear)
    (objects : ∀ d ∈ docs, d.isObject = true) (s : Stage) (path : String) :
    ¬ Stops collections stages docs s path := by
  intro stops
  induction stops with
  | here reached =>
    obtain ⟨before, d, after, rfl, -, blocked⟩ := reached
    exact (List.forall_mem_cons.1 clear).1.not_blocks (objects d (by simp)) _ blocked
  | later ran _ ih =>
    exact ih (List.forall_mem_cons.1 clear).2 (Stage.isObject_of_runStage ran objects)

end

/-- **A pipeline that the builder accepted runs, or stops at a write that is blocked.** With whatever
sort, as long as its sorting stages are given documents that they put into a total preorder, it runs
to its end on documents on which no stage is blocked, and fails at the first document that blocks an
`$unwind`, with the path that cannot be written; a pipeline all of whose stages are clear is never
blocked. Of the documents that block a projection it says nothing. -/
theorem Built.run_outcome {p : Pipeline} (built : Built Filter.Answerable p) (sorter : Sorter)
    (collections : String → List Json) (docs : List Json)
    (objects : ∀ d ∈ docs, d.isObject = true)
    (sortable : AllSortable collections p.toJson docs) :
    sorter.run collections p.toJson docs = some (run collections p.toJson docs) ∧
    ((∀ s path, ¬ Stops collections p.stages docs s path) →
      ∃ out, run collections p.toJson docs = .ok out) ∧
    (∀ field path, Stops collections p.stages docs (.unwind field) path →
      run collections p.toJson docs = .error (.pathBlocked path)) ∧
    ((∀ s ∈ p.stages, s.Clear) → ∀ s path, ¬ Stops collections p.stages docs s path) := by
  have failed (e : Aggregation.Fault) : run collections p.toJson docs = .error e ↔ _ :=
    run_eq_error built.scoped.exists_enters objects
  refine ⟨sorter.run_eq sortable, fun free => ?_,
    fun field path stops => (failed _).2 ⟨path, rfl, _, stops⟩,
    fun clear => not_stops_of_clear clear objects⟩
  cases ran : run collections p.toJson docs with
  | ok out => exact ⟨out, rfl⟩
  | error e =>
    obtain ⟨path, -, s, stops⟩ := (failed e).1 ran
    exact absurd stops (free s path)

/-- The items of a list, each beside the name of its document, in descending order. -/
theorem run_outcome_items :
    ∃ p : Pipeline,
      p.stages = [.unwind "tags", .sort [("tags", -1)],
        .project [("name", .bool true), ("tag", .str "$tags")]] ∧
      ∃ out, Sorter.insertion.run (fun _ => []) p.toJson
        [.obj [("name", .str "a"), ("tags", .arr [.str "x", .str "y"])]] = some (.ok out) := by
  let stages : List Stage := [.unwind "tags", .sort [("tags", -1)],
    .project [("name", .bool true), ("tag", .str "$tags")]]
  let whole : Json := .obj [("name", .str "a"), ("tags", .arr [.str "x", .str "y"])]
  let item (tag : String) : Json := .obj [("name", .str "a"), ("tags", .str tag)]
  have unwound : ({} : Pipeline).unwindPath "tags" = .ok { stages := stages.take 1 } := rfl
  have sorted : ({ stages := stages.take 1 } : Pipeline).sort [("tags", -1)] =
      .ok { stages := stages.take 2 } := rfl
  have projected : ({ stages := stages.take 2 } : Pipeline).project
      (.obj [("name", .bool true), ("tag", .str "$tags")]) = .ok { stages } := rfl
  have items : runStage (fun _ => []) [whole] (Stage.unwind "tags").toJson =
      .ok [item "x", item "y"] := rfl
  have wordy (tag : String) : (item tag).NumbersIn fun n => n.asInt64?.isSome :=
    .obj (by simpa using ⟨.str _, .str _⟩)
  have sortable : AllSortable (fun _ => []) (stages.map Stage.toJson) [whole] := by
    refine ⟨Aggregation.sortable_of_ne _ (by decide), fun out ran => ⟨?_, fun out' _ =>
      ⟨Aggregation.sortable_of_ne _ (by decide), fun _ _ => trivial⟩⟩⟩
    cases items.symm.trans ran
    exact Aggregation.sortable_of_numbersIn Number.unblurred_of_int64
      (by simpa using ⟨wordy "x", wordy "y"⟩) _
  have outcome := Built.run_outcome (.project (.sort (.unwindPath .empty unwound) sorted) projected)
    .insertion (fun _ => []) [whole] (by simp [whole, Json.isObject]) sortable
  have clear : ∀ s ∈ stages, s.Clear := by
    simp only [stages, List.forall_mem_cons, List.not_mem_nil, false_implies, implies_true, and_true]
    exact ⟨by decide, trivial, by decide⟩
  obtain ⟨out, done⟩ := outcome.2.1 (outcome.2.2.2 clear)
  exact ⟨_, rfl, out, done ▸ outcome.1⟩

/-- An array in an array can be unwound by its index, and its items cannot be written over it. -/
theorem not_run_of_nestedArray :
    ∃ p : Pipeline, Built Filter.Answerable p ∧ p.stages = [.unwind "a.0"] ∧
      run (fun _ => []) p.toJson [.obj [("a", .arr [.arr [.bool true]])]] =
        .error (.pathBlocked "a.0") := by
  have unwound : ({} : Pipeline).unwindPath "a.0" = .ok { stages := [.unwind "a.0"] } := rfl
  exact ⟨_, .unwindPath .empty unwound, rfl, rfl⟩

end Pipeline

end DocStore
