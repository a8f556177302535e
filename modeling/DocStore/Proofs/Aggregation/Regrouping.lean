import DocStore.Proofs.Aggregation.Grouping
import DocStore.Proofs.Aggregation.Joining
import DocStore.Proofs.Store.Identity

/-!
# Regrouping undoes unwinding

Unwinding puts the copies of a document next to each other, one for each item of a field. Grouped by
their identifier they are one group (`documents_of_copies`), in which the items are pushed back into an
array (`run_unwind_regroup`).
-/

namespace DocStore.Aggregation

open Store (Identified idOf)

/-- Documents are grouped by their identifiers, and the values of a field are pushed. -/
def regroup (field : String) : GroupSpec := ⟨.str "$_id", [⟨field, .push, .str ("$" ++ field)⟩]⟩

/-- The stage that groups so. -/
def regroupStage (field : String) : Json :=
  .single "$group" (.obj [("_id", .str "$_id"), (field, .single "$push" (.str ("$" ++ field)))])

/-- What regrouping leaves of a document: its identifier and the array of its items, if it has any. -/
def regrouped (field : String) (d : Fields) : Option Json :=
  let vs := items (d.get? field)
  if vs.isEmpty then none else some (.obj [("_id", idOf (.obj d)), (field, .arr vs)])

/-- The value of a text that marks a top-level field. -/
theorem evaluate?_marked {field : String} (plain : '.' ∉ field.toList) (d : Fields) :
    evaluate? (.obj d) (.str ("$" ++ field)) = d.get? field := by
  have path : fieldPath? ("$" ++ field) = some field := by
    simp only [fieldPath?, Text.toList_marked, String.ofList_toList]
  rw [evaluate?, path]
  exact Json.getPath?_of_not_mem plain _

theorem evaluate_identifier (d : Fields) :
    evaluate (.obj d) (.str "$_id") = idOf (.obj d) := by
  have plain : '.' ∉ "_id".toList := by decide
  exact congrArg (·.getD .null) (evaluate?_marked plain d)

section

variable {field : String}

theorem runStage_regroup (collections : String → List Json) (other : field ≠ "_id")
    (docs : List Json) :
    runStage collections docs (regroupStage field) =
      .ok ((Group.ofDocuments (.str "$_id") docs).map (regroup field).document) := by
  refine Fallible.bind_eq_ok.2 ⟨regroup field, groupSpec_eq_ok.2 ⟨rfl, ?_⟩, rfl⟩
  rw [List.filter_cons_of_neg (by simp), List.filter_cons_of_pos (by simpa using other)]
  exact .cons rfl .nil

/-- A copy has the identifier of its document. -/
theorem evaluate_copy (other : field ≠ "_id") {d : Fields} {c : Json} (copy : c ∈ copies field d) :
    evaluate c (.str "$_id") = idOf (.obj d) := by
  obtain ⟨v, -, rfl⟩ := List.mem_map.1 copy
  rw [evaluate_identifier]
  exact congrArg (·.getD .null) (Fields.get?_insert_of_ne other.symm v d)

/-- The items of a document are pushed by its copies. -/
theorem document_copies (plain : '.' ∉ field.toList) (id : Json) (d : Fields) :
    (regroup field).document ⟨id, copies field d⟩ =
      .obj [("_id", id), (field, .arr (items (d.get? field)))] := by
  have value (v : Json) : evaluate? (.obj (d.insert field v)) (.str ("$" ++ field)) = some v := by
    rw [evaluate?_marked plain]
    exact Fields.get?_insert_self field v d
  simp only [GroupSpec.document, regroup, Output.value, Accumulator.result, copies, List.map_map,
    List.map_cons, List.map_nil, List.filterMap_map, Function.comp_def, value, id_eq,
    List.filterMap_some]

theorem wellFormed_idOf {d : Fields} (wf : (Json.obj d).WellFormed) : (idOf (.obj d)).WellFormed := by
  rw [idOf, Json.get?]
  cases here : d.get? "_id" with
  | none => exact .null
  | some id => exact wf.of_get? here

/-- The copies of documents with distinct identifiers are grouped document by document. -/
theorem documents_of_copies (plain : '.' ∉ field.toList) (other : field ≠ "_id")
    {docs : List Fields} (identified : Identified (docs.map .obj))
    (wf : ∀ d ∈ docs, (Json.obj d).WellFormed) :
    (Group.ofDocuments (.str "$_id") (docs.flatMap (copies field))).map (regroup field).document =
      docs.filterMap (regrouped field) := by
  have distinct := List.pairwise_map.1 identified.distinct
  clear identified
  induction docs with
  | nil => rfl
  | cons d docs ih =>
    obtain ⟨apart, distinct⟩ := List.pairwise_cons.1 distinct
    obtain ⟨wfd, wf⟩ := List.forall_mem_cons.1 wf
    have later : ∀ c ∈ docs.flatMap (copies field),
        (idOf (.obj d)).equals (evaluate c (.str "$_id")) = false := by
      intro c hc
      obtain ⟨e, he, copy⟩ := List.mem_flatMap.1 hc
      rw [evaluate_copy other copy]
      exact (apart e he).1
    rw [List.flatMap_cons, List.filterMap_cons, regrouped]
    by_cases none : items (d.get? field) = []
    · rw [copies, none]
      exact ih wf distinct
    · have filled : copies field d ≠ [] := by simpa [copies] using none
      rw [Group.ofDocuments_block filled (fun c copy => evaluate_copy other copy)
        (Json.equals_refl (wellFormed_idOf wfd)) later, List.map_cons, document_copies plain,
        ih wf distinct]
      simp [none]

/-- **Regrouping undoes unwinding**: of each document with items in a field there is one document, in
the original order, with its identifier and the array of its items. -/
theorem run_unwind_regroup (collections : String → List Json) (plain : '.' ∉ field.toList)
    (other : field ≠ "_id") {docs : List Fields} (identified : Identified (docs.map .obj))
    (wf : ∀ d ∈ docs, (Json.obj d).WellFormed) :
    run collections [.single "$unwind" (.str ("$" ++ field)), regroupStage field] (docs.map .obj) =
      .ok (docs.filterMap (regrouped field)) := by
  have unwound (d : Fields) : UnwindSpec.documents ⟨field, false⟩ (.obj d) = .ok (copies field d) :=
    documents_eq_copies plain false d
  rw [run_cons, runStage_unwind .path fun d _ => unwound d]
  refine (run_singleton _).trans ?_
  rw [runStage_regroup collections other, documents_of_copies plain other identified wf]

/-- An array with null and an array among its items, a scalar, an empty array and a missing field. -/
theorem run_unwind_regroup_nested :
    let docs : List Fields := [[("_id", .int 2), ("x", .arr [.null, .arr [.int 1], .null])],
      [("_id", .int 1), ("x", .str "s")], [("_id", .null), ("x", .arr [])], [("_id", .int 3)]]
    run (fun _ => []) [.single "$unwind" (.str ("$" ++ "x")), regroupStage "x"] (docs.map .obj) =
      .ok [.obj [("_id", .int 2), ("x", .arr [.null, .arr [.int 1], .null])],
        .obj [("_id", .int 1), ("x", .arr [.str "s"])]] := by
  intro docs
  have identified : Identified (docs.map .obj) := by
    refine ⟨?_, ?_⟩
    · simp only [docs, List.map_cons, List.forall_mem_cons]
      exact ⟨⟨_, rfl⟩, ⟨_, rfl⟩, ⟨_, rfl⟩, ⟨_, rfl⟩, by simp⟩
    · rw [List.pairwise_map]
      decide
  have both {id v : Json} (identifier : id.WellFormed) (value : v.WellFormed) :
      (Json.obj [("_id", id), ("x", v)]).WellFormed :=
    .obj (by simp [Fields.keys]) (by simpa using ⟨identifier, value⟩)
  have nested : (Json.arr [.null, .arr [.int 1], .null]).WellFormed := by
    have one : (Json.arr [.int 1]).WellFormed := .arr (by simpa using .num _)
    exact .arr (by simpa using ⟨.null, one, .null⟩)
  have wf : ∀ d ∈ docs, (Json.obj d).WellFormed := by
    simp only [docs, List.forall_mem_cons]
    exact ⟨both (.num _) nested, both (.num _) (.str _), both .null (.arr (by simp)),
      .obj (by decide) (by simpa using .num _), by simp⟩
  exact run_unwind_regroup _ (by decide) (by decide) identified wf

end

end DocStore.Aggregation
