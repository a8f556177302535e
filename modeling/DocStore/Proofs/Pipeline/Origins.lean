import DocStore.Proofs.Aggregation.Grouping
import DocStore.Proofs.Aggregation.Projecting
import DocStore.Proofs.Aggregation.Running
import DocStore.Proofs.Aggregation.Sorting
import DocStore.Pipeline.Basic

/-!
# Where documents come from

Every stage but `$group` makes each of its documents out of one document that it was given
(`Stage.Makes`, `Stage.exists_origin`); the documents of `$group` have a field for each accumulator
(`Stage.isSome_get?_of_group`). All are objects if the documents given are
(`Stage.isObject_of_runStage`).
-/

namespace DocStore

open Fallible (bind_eq_ok mapM_eq_ok exists_of_mem)
open Aggregation (runStage write partners UnwindSpec projectDocument Group GroupSpec Output)

/-- A stage makes a document out of another one. -/
inductive Stage.Makes (collections : String → List Json) : Stage → Json → Json → Prop where
  | select {query d : Json} : Makes collections (.select query) d d
  | sort {keys : List (String × Int)} {d : Json} : Makes collections (.sort keys) d d
  | limit {n : Nat} {d : Json} : Makes collections (.limit n) d d
  | skip {n : Nat} {d : Json} : Makes collections (.skip n) d d
  | lookup {source localField foreignField target : String} {d d' : Json} :
    write d target (.arr (partners localField foreignField (collections source) d)) = .ok d' →
    Makes collections (.lookup source localField foreignField target) d d'
  | unwind {path : String} {d d' : Json} {ds : List Json} :
    UnwindSpec.documents ⟨path, false⟩ d = .ok ds → d' ∈ ds → Makes collections (.unwind path) d d'
  | project {fields : Fields} {d d' : Json} : projectDocument fields d = .ok d' →
    Makes collections (.project fields) d d'

/-! ## The stages by themselves -/

namespace Aggregation

variable {docs out : List Json} {d : Json}

theorem mem_of_querySelect {query : Json} (h : Query.select query docs = .ok out)
    (member : d ∈ out) : d ∈ docs := by
  induction docs generalizing out with
  | nil =>
    cases h
    exact member
  | cons e docs ih =>
    obtain ⟨b, -, h⟩ := bind_eq_ok.1 h
    obtain ⟨rest, hrest, h⟩ := bind_eq_ok.1 h
    cases h
    split at member
    · exact (List.mem_cons.1 member).elim (fun same => by simp [same])
        fun there => List.mem_cons_of_mem _ (ih hrest there)
    · exact List.mem_cons_of_mem _ (ih hrest member)

end Aggregation

/-! ## All stages -/

namespace Stage

section

variable {collections : String → List Json} {docs out : List Json} {s : Stage} {d : Json}

theorem unwindSpec_ofJson (path : String) :
    UnwindSpec.ofJson (.str ("$" ++ path)) = .ok ⟨path, false⟩ := by
  refine bind_eq_ok.2 ⟨("$" ++ path, false), rfl, ?_⟩
  simp only [Text.toList_marked, String.ofList_toList]

theorem runStage_lookup (source localField foreignField target : String) :
    runStage collections docs (lookup source localField foreignField target).toJson =
      docs.mapM fun d =>
        write d target (.arr (partners localField foreignField (collections source) d)) := rfl

theorem runStage_unwind (path : String) :
    runStage collections docs (unwind path).toJson =
      (docs.mapM (UnwindSpec.documents ⟨path, false⟩)).map List.flatten := by
  change (UnwindSpec.ofJson (.str ("$" ++ path)) >>= _) = _
  rw [unwindSpec_ofJson]
  change (docs.mapM (UnwindSpec.documents ⟨path, false⟩) >>= fun parts => pure parts.flatten) = _
  cases docs.mapM (UnwindSpec.documents ⟨path, false⟩) <;> rfl

theorem runStage_project (fields : Fields) :
    runStage collections docs (project fields).toJson = docs.mapM (projectDocument fields) := rfl

/-- **A document after a stage was made out of one before it**, or is the document of a group. -/
theorem exists_origin (h : runStage collections docs s.toJson = .ok out) (member : d ∈ out) :
    (∃ e ∈ docs, s.Makes collections e d) ∨
      ∃ key accumulators spec g, s = .group key accumulators ∧
        GroupSpec.ofJson s.body = .ok spec ∧ d = spec.document g := by
  cases s with
  | select query =>
    change Aggregation.select query docs = .ok out at h
    unfold Aggregation.select at h
    split at h
    · rename_i kept selected
      cases h
      exact .inl ⟨d, Aggregation.mem_of_querySelect selected member, .select⟩
    · cases h
  | group key accumulators =>
    obtain ⟨spec, hspec, h⟩ := bind_eq_ok.1 h
    cases h
    obtain ⟨g, -, rfl⟩ := List.mem_map.1 member
    exact .inr ⟨key, accumulators, spec, g, rfl, hspec, rfl⟩
  | sort keys =>
    obtain ⟨order, -, h⟩ := bind_eq_ok.1 h
    cases h
    exact .inl ⟨d, (Aggregation.sortBy_perm _ docs).mem_iff.1 member, .sort⟩
  | limit n =>
    change Aggregation.limit (.nat n) docs = .ok out at h
    unfold Aggregation.limit at h
    split at h
    · cases h
    · cases h
      exact .inl ⟨d, List.mem_of_mem_take member, .limit⟩
    · cases h
  | skip n =>
    change Aggregation.skip (.nat n) docs = .ok out at h
    unfold Aggregation.skip at h
    split at h
    · cases h
      exact .inl ⟨d, List.mem_of_mem_drop member, .skip⟩
    · cases h
  | lookup source localField foreignField target =>
    rw [runStage_lookup] at h
    obtain ⟨e, he, made⟩ := exists_of_mem (mapM_eq_ok.1 h) member
    exact .inl ⟨e, he, .lookup made⟩
  | unwind path =>
    rw [runStage_unwind] at h
    obtain ⟨parts, hparts, rfl⟩ := Fallible.map_eq_ok.1 h
    obtain ⟨ds, hds, member⟩ := List.mem_flatten.1 member
    obtain ⟨e, he, made⟩ := exists_of_mem (mapM_eq_ok.1 hparts) hds
    exact .inl ⟨e, he, .unwind made member⟩
  | project fields =>
    rw [runStage_project] at h
    obtain ⟨e, he, made⟩ := exists_of_mem (mapM_eq_ok.1 h) member
    exact .inl ⟨e, he, .project made⟩

/-- What a document is unwound into: itself, or itself with an item written over the array. -/
theorem unwound_cases {path : String} {ds : List Json} {d' : Json}
    (h : UnwindSpec.documents ⟨path, false⟩ d = .ok ds) (member : d' ∈ ds) :
    d' = d ∨ (d.getPath? path).isSome ∧ ∃ item, write d path item = .ok d' := by
  unfold UnwindSpec.documents at h
  simp only [Bool.false_eq_true, ↓reduceIte] at h
  split at h
  · cases h
    cases member
  · rename_i there
    obtain ⟨item, -, written⟩ := exists_of_mem (mapM_eq_ok.1 h) member
    exact .inr ⟨by simp [there], item, written⟩
  · cases h
    cases member
  · cases h
    cases member
  · cases h
    exact .inl (List.mem_singleton.1 member)

theorem Makes.isObject {e : Json} (h : s.Makes collections e d) (object : e.isObject = true) :
    d.isObject = true := by
  cases h with
  | lookup made => exact Aggregation.isObject_of_write made
  | unwind made member =>
    rcases unwound_cases made member with rfl | ⟨-, item, written⟩
    · exact object
    · exact Aggregation.isObject_of_write written
  | project made => exact Aggregation.isObject_of_projectDocument object made
  | _ => exact object

/-- Stages make objects out of objects. -/
theorem isObject_of_runStage (h : runStage collections docs s.toJson = .ok out)
    (objects : ∀ d ∈ docs, d.isObject = true) : ∀ d ∈ out, d.isObject = true := by
  intro d member
  rcases exists_origin h member with ⟨e, he, made⟩ | ⟨key, accumulators, spec, g, -, -, rfl⟩
  · exact made.isObject (objects e he)
  · rfl

/-- The document of a group has a field for each accumulator. -/
theorem isSome_get?_of_group {key : Json} {accumulators : Fields} {spec : GroupSpec}
    (h : GroupSpec.ofJson (group key accumulators).body = .ok spec) (g : Group) {name : String}
    (other : name ≠ "_id") (member : name ∈ accumulators.map (·.1)) :
    ((spec.document g).get? name).isSome := by
  have written : name ∈ Fields.keys
      (accumulators.foldl (fun fs f => Fields.insert f.1 f.2 fs) [("_id", key)]) :=
    Fields.mem_keys_foldl_insert.2 (.inr member)
  obtain ⟨f, hf, rfl⟩ := List.mem_map.1 written
  have listed : f ∈ List.filter (·.1 != "_id") _ := List.mem_filter.2 ⟨hf, by simpa using other⟩
  have outputs := (Aggregation.groupSpec_eq_ok.1 h).2
  obtain ⟨o, ho, read⟩ := exists_of_mem (List.Forall₂.flip (R := flip _) outputs) listed
  obtain ⟨-, -, -, named⟩ := Aggregation.output_eq_ok.1 read
  refine Fields.isSome_get?_iff.2 (List.mem_cons_of_mem _ ?_)
  exact List.mem_map.2 ⟨_, List.mem_map.2 ⟨o, ho, rfl⟩, named⟩

end

end Stage

end DocStore
