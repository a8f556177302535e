import DocStore.Aggregation.Projection
import DocStore.Proofs.Fallible
import DocStore.Proofs.Json.InPlace

/-!
# What a projection makes of a document

A projection that includes fields writes one value after another into a new document
(`Aggregation.written?`); one that excludes fields removes them from the document. Both leave an
object (`Aggregation.isObject_of_projectDocument`), and fail only where a value that was written is in
the way of a later one (`Aggregation.projectDocument_eq_error`).
-/

namespace DocStore

/-! ## Writing -/

namespace Aggregation

theorem write_eq_ok {doc value out : Json} {path : String} :
    write doc path value = .ok out ↔ doc.setPath? path value = some out := Json.writePath_eq_ok

theorem write_eq_error {doc value : Json} {path : String} {e : Fault} :
    write doc path value = .error e ↔ e = .pathBlocked path ∧ doc.Obstructs (.ofString path) :=
  Json.writePath_eq_error

/-- A value is written into a field of an object. -/
theorem write_obj {field : String} (plain : '.' ∉ field.toList) (fs : Fields) (v : Json) :
    write (.obj fs) field v = .ok (.obj (fs.insert field v)) := by
  rw [write_eq_ok, Json.setPath?, Path.ofString_eq_singleton.2 ⟨rfl, plain⟩]
  rfl

/-- What a write leaves: the old top-level fields, and the one that its path begins with. -/
theorem isSome_get?_write {doc value out : Json} {path : String} (h : write doc path value = .ok out)
    (name : String) : (out.get? name).isSome ↔ (doc.get? name).isSome ∨ Path.root path = name := by
  have set := write_eq_ok.1 h
  obtain ⟨root, rest, split⟩ := Path.exists_cons path
  rw [Json.setPath?, split] at set
  obtain ⟨fs, below, rfl, rfl, -⟩ := Json.setSegments?_cases set
  simp only [Json.get?, Fields.isSome_get?_iff, Fields.mem_keys_insert, Path.root, split,
    List.headD_cons, eq_comm (a := root), or_comm]

theorem isObject_of_write {doc value out : Json} {path : String} (h : write doc path value = .ok out) :
    out.isObject = true :=
  Json.isObject_of_setPath? (write_eq_ok.1 h)

/-! ## Including fields -/

/-- The value that an including projection writes for a field, when it writes one: the value of the
document there, or a computed one. The identifier is not written when it is only kept. -/
def written? (doc : Json) (field : String) (v : Json) : Option Json :=
  match keeps? v with
  | some false => none
  | some true => if field = "_id" then none else doc.getPath? field
  | none => some (evaluate doc v)

theorem isSome_written?_iff {doc : Json} {field : String} {v : Json} :
    (written? doc field v).isSome ↔
      keeps? v = none ∨ keeps? v = some true ∧ field ≠ "_id" ∧ (doc.getPath? field).isSome := by
  unfold written?
  cases keeps? v with
  | none => simp
  | some keeps => cases keeps <;> by_cases identifier : field = "_id" <;> simp [identifier]

section

variable {spec : Fields} {doc out : Json}

theorem includeField_eq (doc out : Json) (field : String) (v : Json) :
    includeField doc out field v =
      match written? doc field v with
      | some value => write out field value
      | none => .ok out := by
  unfold includeField written?
  cases keeps? v with
  | none => rfl
  | some keeps =>
    cases keeps with
    | false => rfl
    | true =>
      by_cases identifier : field = "_id"
      · simp [identifier]
      · cases doc.getPath? field <;> simp [identifier]

/-- An including projection stops at a field: something that it wrote is in the way. -/
def IncludeStops (spec : Fields) (doc : Json) (path : String) : Prop :=
  ∃ before v after out value, spec = before ++ (path, v) :: after ∧
    before.foldlM (fun out (field, v) => includeField doc out field v) (.obj (keptId spec doc)) =
      .ok out ∧
    written? doc path v = some value ∧ out.Obstructs (.ofString path)

theorem includeField_eq_error {field : String} {v : Json} {e : Fault} :
    includeField doc out field v = .error e ↔ e = .pathBlocked field ∧
      ∃ value, written? doc field v = some value ∧ out.Obstructs (.ofString field) := by
  rw [includeField_eq]
  cases written? doc field v <;> simp [write_eq_error]

/-- A projection of fields to keep or to drop, but not both, fails only where it stops. -/
theorem projectDocument_eq_error (unmixed : (excludes spec && includes spec) = false) {e : Fault} :
    projectDocument spec doc = .error e ↔
      ∃ path, e = .pathBlocked path ∧ includes spec = true ∧ IncludeStops spec doc path := by
  rw [projectDocument, if_neg (by simp [unmixed])]
  cases including : includes spec with
  | false => simp
  | true =>
    rw [if_pos rfl, Fallible.foldlM_eq_error]
    constructor
    · rintro ⟨before, ⟨field, v⟩, after, out, split, soFar, fails⟩
      obtain ⟨rfl, value, writes, blocked⟩ := includeField_eq_error.1 fails
      exact ⟨field, rfl, rfl, before, v, after, out, value, split, soFar, writes, blocked⟩
    · rintro ⟨path, rfl, -, before, v, after, out, value, split, soFar, writes, blocked⟩
      exact ⟨before, (path, v), after, out, split, soFar,
        includeField_eq_error.2 ⟨rfl, value, writes, blocked⟩⟩

theorem keptId_cases (spec : Fields) (doc : Json) :
    keptId spec doc = [] ∨ ∃ id, keptId spec doc = [("_id", id)] := by
  unfold keptId
  extract_lets keeps
  split
  · cases doc.get? "_id" with
    | none => exact .inl rfl
    | some id => exact .inr ⟨id, rfl⟩
  · exact .inl rfl

theorem isObject_of_includeField {field : String} {v out' : Json}
    (h : includeField doc out field v = .ok out') (object : out.isObject = true) :
    out'.isObject = true := by
  rw [includeField_eq] at h
  split at h
  · exact isObject_of_write h
  · cases h
    exact object

/-- An included field brings its first segment, if anything is written for it. -/
theorem isSome_get?_of_includeField {field : String} {v out' : Json}
    (h : includeField doc out field v = .ok out') (name : String) :
    (out'.get? name).isSome ↔
      (out.get? name).isSome ∨ Path.root field = name ∧ (written? doc field v).isSome := by
  rw [includeField_eq] at h
  split at h
  · rename_i value writes
    rw [isSome_get?_write h, writes]
    simp
  · rename_i none
    cases h
    simp [none]

/-- An including projection carries a top-level field over: something is written at it or below it. -/
def Carries (spec : Fields) (doc : Json) (name : String) : Prop :=
  ∃ f ∈ spec, Path.root f.1 = name ∧ (written? doc f.1 f.2).isSome

theorem isSome_get?_of_foldlM {fields : Fields} {start : Json}
    (h : fields.foldlM (fun out (field, v) => includeField doc out field v) start = .ok out)
    (name : String) :
    (out.get? name).isSome ↔ (start.get? name).isSome ∨ Carries fields doc name := by
  induction fields generalizing start with
  | nil =>
    cases h
    simp [Carries]
  | cons f fields ih =>
    obtain ⟨field, v⟩ := f
    obtain ⟨next, here, there⟩ := Fallible.bind_eq_ok.1 ((List.foldlM_cons ..).symm.trans h)
    rw [ih there, isSome_get?_of_includeField here]
    simp [Carries, or_assoc]

/-- After an including projection a document has the fields, other than the identifier, that were
carried over. -/
theorem isSome_get?_of_included (including : includes spec = true)
    (h : projectDocument spec doc = .ok out) {name : String} (other : name ≠ "_id") :
    (out.get? name).isSome ↔ Carries spec doc name := by
  rw [projectDocument] at h
  split at h
  · cases h
  · have start : ¬ ((Json.obj (keptId spec doc)).get? name).isSome := by
      rcases keptId_cases spec doc with none | ⟨id, one⟩
      · simp [none, Json.get?, Fields.get?]
      · simp [one, Json.get?, other, Fields.get?]
    rw [isSome_get?_of_foldlM h]
    simp [start]

theorem isObject_of_foldlM {fields : Fields} {start : Json}
    (h : fields.foldlM (fun out (field, v) => includeField doc out field v) start = .ok out)
    (object : start.isObject = true) : out.isObject = true := by
  refine Fallible.foldlM_invariant (P := (·.isObject = true)) h object fun f _ d d' before step => ?_
  exact isObject_of_includeField step before

theorem isObject_of_included (including : includes spec = true)
    (h : projectDocument spec doc = .ok out) : out.isObject = true := by
  rw [projectDocument] at h
  split at h
  · cases h
  · exact isObject_of_foldlM h rfl

/-! ## Excluding fields -/

theorem projectDocument_of_excludes (excluding : includes spec = false) :
    projectDocument spec doc = .ok (exclude spec doc) := by
  rw [projectDocument, if_neg (by simp [excluding]), if_neg (by simp [excluding])]

/-- What each removal preserves holds of a document after an excluding projection. -/
theorem exclude_invariant {P : Json → Prop} (start : P doc)
    (step : ∀ f ∈ spec, keeps? f.2 = some false → ∀ d, P d → P (d.removePath f.1)) :
    P (exclude spec doc) := by
  unfold exclude
  refine List.foldlRecOn (motive := P) _ _ start fun d before f dropped => ?_
  obtain ⟨member, drops⟩ := List.mem_filter.1 dropped
  exact step f member (by simpa using drops) d before

theorem isObject_of_removePath {v : Json} (object : v.isObject = true) (path : String) :
    (v.removePath path).isObject = true := by
  obtain ⟨fs, rfl⟩ := Json.exists_fields object
  rcases Json.removePath_obj fs path with same | ⟨leaf, -, same⟩ | ⟨root, _, _, below, -, -, same⟩ <;>
    simp [same, Json.isObject]

/-- Removing at another path leaves a top-level field. -/
theorem isSome_get?_removePath {v : Json} {path name : String} (other : path ≠ name)
    (present : (v.get? name).isSome) : ((v.removePath path).get? name).isSome := by
  cases v with
  | obj fs =>
    have here : name ∈ Fields.keys fs := Fields.isSome_get?_iff.1 present
    obtain same | ⟨leaf, split, same⟩ | ⟨root, _, _, below, -, -, same⟩ := Json.removePath_obj fs path
    · rwa [same]
    · obtain rfl := Path.eq_of_ofString split
      rw [same]
      exact Fields.isSome_get?_iff.2 ((Fields.mem_keys_erase_of_ne other.symm).2 here)
    · rw [same]
      exact Fields.isSome_get?_iff.2 (Fields.mem_keys_insert.2 (.inr here))
  | _ => cases present

/-- Removing brings no top-level field. -/
theorem isSome_get?_of_removePath {v : Json} {path name : String}
    (present : ((v.removePath path).get? name).isSome) : (v.get? name).isSome := by
  cases v with
  | obj fs =>
    obtain same | ⟨leaf, split, same⟩ | ⟨root, _, _, below, -, there, same⟩ :=
      Json.removePath_obj fs path
    · rwa [same] at present
    · rw [same] at present
      exact Fields.isSome_get?_iff.2 (Fields.mem_keys_of_erase (Fields.isSome_get?_iff.1 present))
    · rw [same] at present
      rcases Fields.mem_keys_insert.1 (Fields.isSome_get?_iff.1 present) with rfl | here
      · simp [Json.get?, there]
      · exact Fields.isSome_get?_iff.2 here
  | arr xs =>
    obtain same | ⟨_, _, _, -, same⟩ := Json.removeSegments_arr (.ofString path) xs <;>
      simp [Json.removePath, same, Json.get?] at present
  | _ => rwa [Json.removePath, Json.removeSegments_of_isScalar rfl] at present

/-- Excluding fields leaves the top-level fields that are not named. -/
theorem isSome_get?_exclude {name : String} (spared : ∀ v, (name, v) ∈ spec → keeps? v ≠ some false)
    (present : (doc.get? name).isSome) : ((exclude spec doc).get? name).isSome := by
  refine exclude_invariant (P := fun d => (d.get? name).isSome) present fun f member drops d => ?_
  exact isSome_get?_removePath fun same => spared f.2 (same ▸ member) drops

/-- A projection makes an object of an object. -/
theorem isObject_of_projectDocument (object : doc.isObject = true)
    (h : projectDocument spec doc = .ok out) : out.isObject = true := by
  cases including : includes spec with
  | true => exact isObject_of_included including h
  | false =>
    cases (projectDocument_of_excludes including).symm.trans h
    exact exclude_invariant (P := (·.isObject = true)) object fun f _ _ d before =>
      isObject_of_removePath before f.1

end

end Aggregation

end DocStore
