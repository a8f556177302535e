import DocStore.Json.Path
import Mathlib.Tactic.Tauto

/-!
# Written paths

A text without dots is a path of one segment, and no other text is (`Path.ofString_eq_singleton`).
Writing and removing at a path change one field of a document (`Json.setPath?_obj`,
`Json.removePath_obj`).
-/

namespace DocStore

namespace Text

theorem pieces_ne_nil (sep : Char) (cs : List Char) : pieces sep cs ≠ [] := by
  cases cs with
  | nil => simp [pieces]
  | cons c cs =>
    rw [pieces]
    split
    · simp
    · split <;> simp

/-- A text is its only piece if it has no separator. -/
theorem pieces_eq_singleton {sep : Char} {cs p : List Char} :
    pieces sep cs = [p] ↔ cs = p ∧ sep ∉ cs := by
  induction cs generalizing p with
  | nil => simp [pieces, eq_comm]
  | cons c cs ih =>
    rw [pieces]
    split
    · rename_i same
      obtain rfl : c = sep := by simpa using same
      simp [pieces_ne_nil]
    · rename_i other
      have ne : sep ≠ c := fun same => other (by simp [same])
      split
      · rename_i none
        exact absurd none (pieces_ne_nil sep cs)
      · rename_i q qs pieces
        cases p with
        | nil => simp
        | cons b p =>
          have rest := ih (p := p)
          rw [pieces, List.cons.injEq] at rest
          simp only [List.cons.injEq, List.mem_cons, ne, false_or]
          tauto

end Text

namespace Path

theorem ofString_eq_singleton {s segment : String} :
    ofString s = [segment] ↔ s = segment ∧ '.' ∉ s.toList := by
  constructor
  · intro h
    obtain ⟨p, hp, rfl⟩ := List.map_eq_singleton_iff.1 h
    obtain ⟨same, plain⟩ := Text.pieces_eq_singleton.1 hp
    exact ⟨by rw [← same, String.ofList_toList], plain⟩
  · rintro ⟨rfl, plain⟩
    rw [ofString, Text.split, Text.pieces_eq_singleton.2 ⟨rfl, plain⟩, List.map_singleton,
      String.ofList_toList]

theorem eq_of_ofString {s segment : String} (h : ofString s = [segment]) : s = segment :=
  (ofString_eq_singleton.1 h).1

theorem exists_cons (s : String) : ∃ root rest, ofString s = root :: rest := by
  cases h : ofString s with
  | nil => exact absurd (List.map_eq_nil_iff.1 h) (Text.pieces_ne_nil _ _)
  | cons root rest => exact ⟨root, rest, rfl⟩

theorem exists_below_root (s : String) : ∃ rest, ofString s = root s :: rest := by
  obtain ⟨first, rest, split⟩ := exists_cons s
  refine ⟨rest, ?_⟩
  rw [root, split, List.headD_cons]

theorem ofString_ne_nil (s : String) : ofString s ≠ [] := by
  obtain ⟨rest, split⟩ := exists_below_root s
  rw [split]
  exact List.cons_ne_nil _ _

theorem ofString_id : ofString "_id" = ["_id"] := ofString_eq_singleton.2 ⟨rfl, by decide⟩

end Path

namespace Json

/-- A path without dots reads one field. -/
theorem getPath?_of_not_mem {field : String} (plain : '.' ∉ field.toList) (v : Json) :
    v.getPath? field = v.child? field := by
  rw [getPath?, Path.ofString_eq_singleton.2 ⟨rfl, plain⟩, getSegments?, List.foldlM_cons]
  cases v.child? field <;> rfl

/-- What holds of a document and goes over to items and fields holds of the value at a path. -/
theorem getPath?_invariant {Q : Json → Prop}
    (below : ∀ v w segment, Q v → v.child? segment = some w → Q w) {v w : Json} {path : String}
    (here : Q v) (there : v.getPath? path = some w) : Q w := by
  rw [getPath?, getSegments?] at there
  generalize Path.ofString path = segments at there
  induction segments generalizing v with
  | nil =>
    cases there
    exact here
  | cons segment rest ih =>
    rw [List.foldlM_cons] at there
    obtain ⟨u, first, there⟩ := Option.bind_eq_some_iff.1 there
    exact ih (below v u segment here first) there

/-- A value that is neither an array nor an object. -/
def isScalar : Json → Bool
  | .arr _ => false
  | .obj _ => false
  | _ => true

theorem removeSegments_of_isScalar {v : Json} (h : v.isScalar = true) (path : Path) :
    removeSegments path v = v := by
  cases v with
  | arr xs => cases h
  | obj fs => cases h
  | _ =>
    cases path with
    | nil => rfl
    | cons segment rest => cases rest <;> rfl

/-! ## Writing -/

/-- The document with a value written at a path; `none` where the path leads into a value that
is no object. -/
def setSegments? (value : Json) : Path → Json → Option Json
  | [], _ => none
  | [leaf], .obj fs => some (.obj (Fields.insert leaf value fs))
  | segment :: rest, .obj fs => do
    let below ← setSegments? value rest ((Fields.get? fs segment).getD (.obj []))
    pure (.obj (Fields.insert segment below fs))
  | _ :: _, _ => none

/-- The document with a value written at a written path. -/
def setPath? (v : Json) (path : String) (value : Json) : Option Json :=
  setSegments? value (.ofString path) v

/-- A value is written below objects only. -/
theorem exists_obj_of_setSegments? {value v w : Json} {path : Path}
    (h : setSegments? value path v = some w) : ∃ fs gs, v = .obj fs ∧ w = .obj gs := by
  match path with
  | [] => cases h
  | segment :: rest =>
    cases v with
    | obj fs =>
      cases rest with
      | nil => exact ⟨fs, _, rfl, (Option.some.inj h).symm⟩
      | cons =>
        rw [setSegments?] at h
        · obtain ⟨below, -, last⟩ := Option.bind_eq_some_iff.1 h
          exact ⟨fs, _, rfl, (Option.some.inj last).symm⟩
        · simp
    | _ => cases rest <;> cases h

/-- Writing at a path changes one field of the document: it writes the value there, or below an
object that is there or is created. -/
theorem setPath?_obj {fs : Fields} {path : String} {value e : Json}
    (h : (Json.obj fs).setPath? path value = some e) :
    ∃ root w, e = .obj (fs.insert root w) ∧ (Path.ofString path = [root] ∧ w = value ∨
      ∃ segment rest gs, Path.ofString path = root :: segment :: rest ∧ w = .obj gs ∧
        (fs.get? root = none ∨ ∃ hs, fs.get? root = some (.obj hs))) := by
  rw [setPath?] at h
  obtain ⟨root, rest, split⟩ := Path.exists_cons path
  rw [split] at h ⊢
  cases rest with
  | nil => exact ⟨root, value, (Option.some.inj h).symm, .inl ⟨rfl, rfl⟩⟩
  | cons segment rest =>
    rw [setSegments?] at h
    · obtain ⟨below, deeper, last⟩ := Option.bind_eq_some_iff.1 h
      obtain ⟨hs, gs, there, rfl⟩ := exists_obj_of_setSegments? deeper
      refine ⟨root, _, (Option.some.inj last).symm, .inr ⟨segment, rest, gs, rfl, rfl, ?_⟩⟩
      cases here : fs.get? root with
      | none => exact .inl rfl
      | some v =>
        rw [here, Option.getD_some] at there
        exact .inr ⟨hs, congrArg some there⟩
    · simp

/-! ## Removing -/

theorem removeSegments_obj (path : Path) (fs : Fields) :
    ∃ gs, removeSegments path (.obj fs) = .obj gs := by
  match path with
  | [] => exact ⟨fs, rfl⟩
  | [leaf] => exact ⟨_, rfl⟩
  | segment :: segment' :: rest =>
    rw [removeSegments]
    · split
      · exact ⟨_, rfl⟩
      · exact ⟨_, rfl⟩
    · simp

/-- Removing below an array removes below one of its items, if anything. -/
theorem removeSegments_arr (path : Path) (xs : List Json) :
    removeSegments path (.arr xs) = .arr xs ∨ ∃ i below rest, xs[i]? = some below ∧
      removeSegments path (.arr xs) = .arr (xs.set i (removeSegments rest below)) := by
  match path with
  | [] => exact .inl rfl
  | [leaf] => exact .inl rfl
  | segment :: segment' :: rest =>
    cases index : indexOf? segment with
    | none => exact .inl (by simp only [removeSegments, index])
    | some i =>
      cases here : xs[i]? with
      | none => exact .inl (by simp only [removeSegments, index, here])
      | some below =>
        exact .inr ⟨i, below, segment' :: rest, here, by simp only [removeSegments, index, here]⟩

theorem removeSegments_eq_null {path : Path} {v : Json} :
    removeSegments path v = .null ↔ v = .null := by
  cases v with
  | obj fs =>
    obtain ⟨gs, removed⟩ := removeSegments_obj path fs
    simp [removed]
  | arr xs => obtain removed | ⟨_, _, _, -, removed⟩ := removeSegments_arr path xs <;> simp [removed]
  | _ => rw [removeSegments_of_isScalar rfl]

/-- Removing at a path removes a field of the document, or something below one, if anything. -/
theorem removePath_obj (fs : Fields) (path : String) :
    (Json.obj fs).removePath path = .obj fs ∨
      (∃ leaf, Path.ofString path = [leaf] ∧
        (Json.obj fs).removePath path = .obj (fs.erase leaf)) ∨
      ∃ root segment rest below, Path.ofString path = root :: segment :: rest ∧
        fs.get? root = some below ∧ (Json.obj fs).removePath path =
          .obj (fs.insert root (removeSegments (segment :: rest) below)) := by
  rw [removePath]
  obtain ⟨root, rest, split⟩ := Path.exists_cons path
  rw [split]
  cases rest with
  | nil => exact .inr (.inl ⟨root, rfl, rfl⟩)
  | cons segment rest =>
    rw [removeSegments]
    · split
      · rename_i below here
        exact .inr (.inr ⟨root, segment, rest, below, rfl, here, rfl⟩)
      · exact .inl rfl
    · simp

end Json

end DocStore
