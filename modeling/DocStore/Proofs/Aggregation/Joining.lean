import DocStore.Proofs.Aggregation.Projecting
import DocStore.Proofs.Aggregation.Running
import DocStore.Proofs.Json.Paths
import DocStore.Proofs.Query.Answers

/-!
# Looking up and unwinding is joining

`lookup` finds the documents of another collection by an equality filter on one of their fields
(`partners_eq_joined`), and unwinding its alias makes one document for each pair
(`run_lookup_unwind`).
-/

namespace DocStore

namespace Query

/-- A filter for the documents that have a value in a field. -/
def equality (field : String) (v : Json) : Json := .single field (.single "$eq" v)

theorem selects_equality {field : String} (plain : Text.isOperatorKey field = false) (v d : Json) :
    selects d (equality field v) = .ok (equalTo (d.getPath? field) v) := by
  rw [equality, selects_single, selectsOne_of_field _ plain]
  exact satisfiesCondition_single .eq v

end Query

namespace Aggregation

open Query (equality finds Evaluates)

/-! ## Partners -/

/-- The values of a field by which a document is joined: the items of an array, null for a missing
value, and any other value by itself. -/
def joinValues : Option Json → List Json
  | some (.arr xs) => xs
  | some v => [v]
  | none => [.null]

/-- The documents of another collection that a filter finds which asks for the value of a field, or for
one of its items. -/
def joined (localField foreignField : String) (foreign : List Json) (d : Json) : List Json :=
  foreign.filter fun f => (joinValues (d.getPath? localField)).any fun v =>
    finds (equality foreignField v) f

theorem partners_eq_joined {foreignField : String} (plain : Text.isOperatorKey foreignField = false)
    (localField : String) (foreign : List Json) (d : Json) :
    partners localField foreignField foreign d = joined localField foreignField foreign d := by
  refine List.filter_congr fun f _ => ?_
  simp only [finds, Query.selects_equality plain]
  unfold joins joinValues
  cases d.getPath? localField with
  | none => simp
  | some v => cases v <;> simp

/-! ## Specifications -/

/-- The parameters of a lookup. -/
structure IsLookup (spec : Json) (source localField foreignField target : String) : Prop where
  source : spec.get? "from" = some (.str source)
  localField : spec.get? "localField" = some (.str localField)
  foreignField : spec.get? "foreignField" = some (.str foreignField)
  target : spec.get? "as" = some (.str target)

/-- A specification says to unwind a field, and whether documents without items stay. -/
inductive IsUnwind (field : String) : Json → Bool → Prop where
  | path : IsUnwind field (.str ("$" ++ field)) false
  | options {fs : Fields} {preserve : Bool} (path : fs.get? "path" = some (.str ("$" ++ field)))
    (stays : preserve = true ↔ fs.get? "preserveNullAndEmptyArrays" = some (.bool true)) :
    IsUnwind field (.obj fs) preserve

theorem IsUnwind.ofJson {field : String} {spec : Json} {preserve : Bool}
    (h : IsUnwind field spec preserve) : UnwindSpec.ofJson spec = .ok ⟨field, preserve⟩ := by
  cases h with
  | path =>
    refine Fallible.bind_eq_ok.2 ⟨("$" ++ field, false), rfl, ?_⟩
    simp only [Text.toList_marked, String.ofList_toList]
  | @options fs preserve path stays =>
    have read : textParameter "$unwind" "path" (.obj fs) = .ok ("$" ++ field) := by
      simp only [textParameter, Json.get?, path]
    refine Fallible.bind_eq_ok.2 ⟨"$" ++ field, read, ?_⟩
    refine Fallible.bind_eq_ok.2 ⟨("$" ++ field, preserve), ?_, ?_⟩
    · congr 2
      split
      · rename_i b flag
        rw [flag] at stays
        simpa using stays.symm
      · rename_i other
        rw [eq_comm, Bool.eq_false_iff]
        exact fun set => other true (stays.1 set)
    · simp only [Text.toList_marked, String.ofList_toList]

/-! ## Unwinding -/

/-- The values that a field is unwound into: the items of an array, none for null or a missing value,
and any other value by itself. -/
def items : Option Json → List Json
  | some (.arr xs) => xs
  | some .null => []
  | none => []
  | some v => [v]

/-- The copies of a document that a field is unwound into. -/
def copies (field : String) (d : Fields) : List Json :=
  (items (d.get? field)).map fun v => .obj (d.insert field v)

/-- What a document is unwound into after its partners were looked up: a document for each of them,
or itself without any if it is to stay. -/
def rows (preserve : Bool) (target : String) (partners : List Json) (d : Fields) : List Json :=
  if preserve && partners.isEmpty then [.obj (d.insert target (.arr []))]
  else partners.map fun f => .obj (d.insert target f)

section

variable {field : String} (plain : '.' ∉ field.toList) (preserve : Bool)

include plain

/-- A document is unwound into its copies, or stays without any. -/
theorem documents_eq_copies (d : Fields) :
    UnwindSpec.documents ⟨field, preserve⟩ (.obj d) =
      .ok (if preserve && (items (d.get? field)).isEmpty then [.obj d] else copies field d) := by
  have there : (Json.obj d).getPath? field = d.get? field := Json.getPath?_of_not_mem plain _
  rw [UnwindSpec.documents, there, copies]
  cases here : d.get? field with
  | none => cases preserve <;> rfl
  | some v =>
    cases v with
    | null => cases preserve <;> rfl
    | arr xs =>
      cases xs with
      | nil => cases preserve <;> rfl
      | cons x xs =>
        rw [items, List.isEmpty_cons, Bool.and_false]
        exact Fallible.mapM_eq_map fun v _ => write_obj plain d v
    | _ => simp [items, Fields.insert_of_get? here]

theorem documents_of_partners (partners : List Json) (d : Fields) :
    UnwindSpec.documents ⟨field, preserve⟩ (.obj (d.insert field (.arr partners))) =
      .ok (rows preserve field partners d) := by
  have there : (d.insert field (.arr partners)).get? field = some (.arr partners) :=
    Fields.get?_insert_self ..
  rw [documents_eq_copies plain, rows, copies, there]
  simp only [items, Fields.insert_insert]
  cases partners with
  | nil => rfl
  | cons f partners => rw [List.isEmpty_cons, Bool.and_false, if_neg nofun, if_neg nofun]

end

section

variable {collections : String → List Json} {docs : List Fields} {spec : Json} {target : String}

/-- A lookup gives each document the array of its partners. -/
theorem runStage_lookup {source localField foreignField : String}
    (looksUp : IsLookup spec source localField foreignField target) (plain : '.' ∉ target.toList)
    (named : Text.isOperatorKey foreignField = false) :
    runStage collections (docs.map .obj) (.single "$lookup" spec) =
      .ok (docs.map fun d => .obj (d.insert target
        (.arr (joined localField foreignField (collections source) (.obj d))))) := by
  have read : runStage collections (docs.map .obj) (.single "$lookup" spec) =
      (docs.map .obj).mapM fun d =>
        write d target (.arr (partners localField foreignField (collections source) d)) := by
    change lookup collections spec (docs.map .obj) = _
    simp only [lookup, textParameter, looksUp.source, looksUp.localField, looksUp.foreignField,
      looksUp.target]
    rfl
  rw [read, List.mapM_map]
  refine Fallible.mapM_eq_map fun d _ => ?_
  rw [Function.comp_apply, write_obj plain, partners_eq_joined named]

/-- An unwind puts the documents in a row that each document is unwound into. -/
theorem runStage_unwind {preserve : Bool} {parts : Fields → Json} {each : Fields → List Json}
    (unwinds : IsUnwind target spec preserve)
    (unwound : ∀ d ∈ docs, UnwindSpec.documents ⟨target, preserve⟩ (parts d) = .ok (each d)) :
    runStage collections (docs.map parts) (.single "$unwind" spec) = .ok (docs.flatMap each) := by
  refine Fallible.bind_eq_ok.2 ⟨_, unwinds.ofJson, Fallible.bind_eq_ok.2 ⟨docs.map each, ?_, ?_⟩⟩
  · rw [List.mapM_map]
    exact Fallible.mapM_eq_map unwound
  · rw [List.flatMap]
    rfl

/-- **Looking up and unwinding is joining**: there is one document for each pair of a document and one
of another collection that an equality filter finds for it, in this order, and in its place one for
each document without partners if these are to stay. -/
theorem run_lookup_unwind {lookupSpec unwindSpec : Json} {source localField foreignField : String}
    {preserve : Bool} (looksUp : IsLookup lookupSpec source localField foreignField target)
    (plain : '.' ∉ target.toList) (named : Text.isOperatorKey foreignField = false)
    (unwinds : IsUnwind target unwindSpec preserve) :
    (∀ v, Evaluates (equality foreignField v) (collections source)) ∧
    run collections [.single "$lookup" lookupSpec, .single "$unwind" unwindSpec] (docs.map .obj) =
      .ok (docs.flatMap fun d =>
        rows preserve target (joined localField foreignField (collections source) (.obj d)) d) := by
  refine ⟨fun v f _ => ⟨_, Query.selects_equality named v f⟩, ?_⟩
  rw [run_cons, runStage_lookup looksUp plain named]
  exact (run_singleton _).trans
    (runStage_unwind unwinds fun d _ => documents_of_partners plain preserve _ d)

/-- A document with two partners, and one without that stays. -/
theorem run_lookup_unwind_kept :
    let foreign : List Json := [.obj [("n", .int 1)], .obj [("n", .arr [.int 2])]]
    let docs : List Fields := [[("k", .arr [.int 2, .int 1]), ("p", .null)], [("k", .int 7)]]
    let looksUp : Json := .obj [("from", .str "c"), ("localField", .str "k"),
      ("foreignField", .str "n"), ("as", .str "p")]
    let unwinds : Json := .obj [("path", .str "$p"), ("preserveNullAndEmptyArrays", .bool true)]
    run (fun _ => foreign) [.single "$lookup" looksUp, .single "$unwind" unwinds]
        (docs.map .obj) =
      .ok [.obj [("k", .arr [.int 2, .int 1]), ("p", .obj [("n", .int 1)])],
        .obj [("k", .arr [.int 2, .int 1]), ("p", .obj [("n", .arr [.int 2])])],
        .obj [("k", .int 7), ("p", .arr [])]] := by
  intro foreign docs looksUp unwinds
  have parameters : IsLookup looksUp "c" "k" "n" "p" := ⟨rfl, rfl, rfl, rfl⟩
  have options : IsUnwind "p" unwinds true := .options rfl (iff_of_true rfl rfl)
  exact (run_lookup_unwind parameters (by decide) (by simp [Text.isOperatorKey]) options).2

end

end Aggregation

end DocStore
