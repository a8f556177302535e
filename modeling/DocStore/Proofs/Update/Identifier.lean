import DocStore.Proofs.Json.Fields
import DocStore.Proofs.Update.Edits

/-!
# Updates and the identifier

An update leaves the identifier of a document alone (`Update.keyed_apply`), unless it names a path
below `_id` and the identifier is no scalar. The guard on the identifier only knows the field
`_id` itself: a path below it is written like any other (`Update.apply_set_below`).
-/

namespace DocStore

namespace Json

/-- A document that repeats no key has an identifier. -/
inductive Keyed (id : Json) : Json → Prop where
  | obj {fs : Fields} (distinct : (Fields.keys fs).Nodup)
      (identifier : Fields.get? fs "_id" = some id) : Keyed id (.obj fs)

theorem Keyed.get? {id d : Json} : Keyed id d → d.get? "_id" = some id
  | .obj _ identifier => identifier

theorem Keyed.insert {id : Json} {fs : Fields} {k : String} (h : Keyed id (.obj fs))
    (other : k ≠ "_id") (v : Json) : Keyed id (.obj (Fields.insert k v fs)) := by
  cases h with
  | obj distinct identifier =>
    refine .obj (Fields.nodup_keys_insert distinct k v) ?_
    rw [Fields.get?_insert_of_ne other.symm, identifier]

theorem Keyed.erase {id : Json} {fs : Fields} {k : String} (h : Keyed id (.obj fs))
    (other : k ≠ "_id") : Keyed id (.obj (Fields.erase k fs)) := by
  cases h with
  | obj distinct identifier =>
    refine .obj (Fields.nodup_keys_erase distinct k) ?_
    rw [Fields.get?_erase_of_ne distinct other.symm, identifier]

end Json

namespace Update

open Fallible (foldlM_invariant)

/-- A field is a path below the identifier. -/
def BelowId (field : String) : Prop :=
  ∃ segment rest, Path.ofString field = "_id" :: segment :: rest

section

variable {id d e : Json} {field : String}

/-- A write at another field leaves the identifier alone: below a scalar one nothing is written. -/
theorem keyed_setPath {value : Json} (h : Json.Keyed id d) (other : field ≠ "_id")
    (spared : BelowId field → id.isScalar = true) (set : d.setPath? field value = some e) :
    Json.Keyed id e := by
  cases h with
  | @obj fs distinct identifier =>
    have keyed : Json.Keyed id (.obj fs) := .obj distinct identifier
    obtain ⟨root, w, rfl, ⟨path, rfl⟩ | ⟨segment, rest, gs, path, rfl, there⟩⟩ := Json.setPath?_obj set
    · exact keyed.insert (Path.eq_of_ofString path ▸ other) w
    · refine keyed.insert ?_ _
      rintro rfl
      have scalar := spared ⟨segment, rest, path⟩
      rcases there with none | ⟨hs, object⟩
      · rw [identifier] at none
        cases none
      · obtain rfl := Option.some.inj (identifier.symm.trans object)
        cases scalar

theorem keyed_removePath (h : Json.Keyed id d) (other : field ≠ "_id")
    (spared : BelowId field → id.isScalar = true) : Json.Keyed id (d.removePath field) := by
  cases h with
  | @obj fs distinct identifier =>
    have keyed : Json.Keyed id (.obj fs) := .obj distinct identifier
    obtain same | ⟨leaf, path, gone⟩ | ⟨root, segment, rest, below, path, here, gone⟩ :=
      Json.removePath_obj fs field
    · rw [same]
      exact keyed
    · rw [gone]
      exact keyed.erase (Path.eq_of_ofString path ▸ other)
    · rw [gone]
      by_cases ne : root = "_id"
      · subst ne
        obtain rfl := Option.some.inj (identifier.symm.trans here)
        rw [Json.removeSegments_of_isScalar (spared ⟨segment, rest, path⟩)]
        exact .obj (Fields.nodup_keys_insert distinct "_id" id) (Fields.get?_insert_self "_id" id fs)
      · exact keyed.insert ne _

/-- One edit leaves the identifier alone if its field is spared. -/
theorem keyed_edit {edit : Edit} (h : Json.Keyed id d)
    (spared : BelowId edit.field → id.isScalar = true) (applied : edit.apply d = .ok e) :
    Json.Keyed id e := by
  cases effect_of_apply applied with
  | keep => exact h
  | remove other => exact keyed_removePath h other spared
  | write other _ set => exact keyed_setPath h other spared set

end

/-- The fields that an update names. -/
def fieldsOf (changes : Json) : List String :=
  (changes.fields?.getD []).flatMap fun o => (o.2.fields?.getD []).map (·.1)

/-- An update names a path below the identifier. -/
def ReachesId (changes : Json) : Prop := ∃ field ∈ fieldsOf changes, BelowId field

/-- **An update leaves the identifier alone**, unless it names a path below it and the identifier
has parts. -/
theorem keyed_apply {id d e changes : Json} (h : Json.Keyed id d)
    (spared : ReachesId changes → id.isScalar = true) (applied : apply d changes = .ok e) :
    Json.Keyed id e := by
  refine foldlM_invariant (foldlM_edits applied) h fun edit he b c keyed step => ?_
  refine keyed_edit keyed (fun below => spared ⟨edit.field, ?_, below⟩) step
  obtain ⟨o, ho, he⟩ := List.mem_flatMap.1 he
  obtain ⟨f, hf, rfl⟩ := List.mem_map.1 he
  exact List.mem_flatMap.2 ⟨o, ho, List.mem_map.2 ⟨f, hf, rfl⟩⟩

/-- **A path below the identifier is written into the identifier.** -/
theorem apply_set_below {fs : Fields} {id id' value : Json} {field segment : String} {rest : Path}
    (path : Path.ofString field = "_id" :: segment :: rest)
    (identifier : Fields.get? fs "_id" = some id)
    (written : Json.setSegments? value (segment :: rest) id = some id') :
    ∃ e, apply (.obj fs) (.obj [("$set", .obj [(field, value)])]) = .ok e ∧
      e.get? "_id" = some id' := by
  have other : (field == "_id") = false := by
    refine beq_false_of_ne ?_
    rintro rfl
    have alone : Path.ofString "_id" = ["_id"] := by decide
    rw [alone] at path
    cases path
  have set : (Json.obj fs).setPath? field value = some (.obj (Fields.insert "_id" id' fs)) := by
    rw [Json.setPath?, path, Json.setSegments?, identifier, Option.getD_some, written]
    · rfl
    · simp
  refine ⟨.obj (Fields.insert "_id" id' fs), ?_, Fields.get?_insert_self "_id" id' fs⟩
  have key : Text.isOperatorKey "$set" = true := by decide
  have put : write (.obj fs) field value = .ok _ := Json.writePath_eq_ok.2 set
  have one : applyField "$set" (.obj fs) field value = .ok (.obj (Fields.insert "_id" id' fs)) := by
    simp only [applyField, other, put, Bool.false_eq_true, if_false]
  simp only [apply, List.isEmpty_cons, List.all_cons, List.all_nil, key, Bool.and_self, Bool.not_true,
    Bool.or_self, Bool.false_eq_true, if_false, applyOperator, List.foldlM_cons, one]
  rfl

end Update

end DocStore
